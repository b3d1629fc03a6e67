import DocFilter.Text.CodeRange

/-!
# Table of ages

The editions of the standard, each with the code points that it was the first to assign.
-/

namespace DocFilter

/-- An edition by its number, with the code points that it assigns and no earlier one does. -/
structure EditionEntry where
  major : Nat
  minor : Nat
  ranges : Array CodeRange
  deriving Repr, Inhabited

set_option maxRecDepth 40000 in
/-- Every edition up to 16.0, the earliest first. -/
def editions : Array EditionEntry := #[
  ⟨1, 1, #[
    ⟨0x0, 0x1F5⟩, ⟨0x1FA, 0x217⟩, ⟨0x250, 0x2A8⟩, ⟨0x2B0, 0x2DE⟩,
    ⟨0x2E0, 0x2E9⟩, ⟨0x300, 0x345⟩, ⟨0x360, 0x361⟩, ⟨0x374, 0x375⟩,
    ⟨0x37A, 0x37A⟩, ⟨0x37E, 0x37E⟩, ⟨0x384, 0x38A⟩, ⟨0x38C, 0x38C⟩,
    ⟨0x38E, 0x3A1⟩, ⟨0x3A3, 0x3CE⟩, ⟨0x3D0, 0x3D6⟩, ⟨0x3DA, 0x3DA⟩,
    ⟨0x3DC, 0x3DC⟩, ⟨0x3DE, 0x3DE⟩, ⟨0x3E0, 0x3E0⟩, ⟨0x3E2, 0x3F3⟩,
    ⟨0x401, 0x40C⟩, ⟨0x40E, 0x44F⟩, ⟨0x451, 0x45C⟩, ⟨0x45E, 0x486⟩,
    ⟨0x490, 0x4C4⟩, ⟨0x4C7, 0x4C8⟩, ⟨0x4CB, 0x4CC⟩, ⟨0x4D0, 0x4EB⟩,
    ⟨0x4EE, 0x4F5⟩, ⟨0x4F8, 0x4F9⟩, ⟨0x531, 0x556⟩, ⟨0x559, 0x55F⟩,
    ⟨0x561, 0x587⟩, ⟨0x589, 0x589⟩, ⟨0x5B0, 0x5B9⟩, ⟨0x5BB, 0x5C3⟩,
    ⟨0x5D0, 0x5EA⟩, ⟨0x5F0, 0x5F4⟩, ⟨0x60C, 0x60C⟩, ⟨0x61B, 0x61B⟩,
    ⟨0x61F, 0x61F⟩, ⟨0x621, 0x63A⟩, ⟨0x640, 0x652⟩, ⟨0x660, 0x66D⟩,
    ⟨0x670, 0x6B7⟩, ⟨0x6BA, 0x6BE⟩, ⟨0x6C0, 0x6CE⟩, ⟨0x6D0, 0x6ED⟩,
    ⟨0x6F0, 0x6F9⟩, ⟨0x901, 0x903⟩, ⟨0x905, 0x939⟩, ⟨0x93C, 0x94D⟩,
    ⟨0x950, 0x954⟩, ⟨0x958, 0x970⟩, ⟨0x981, 0x983⟩, ⟨0x985, 0x98C⟩,
    ⟨0x98F, 0x990⟩, ⟨0x993, 0x9A8⟩, ⟨0x9AA, 0x9B0⟩, ⟨0x9B2, 0x9B2⟩,
    ⟨0x9B6, 0x9B9⟩, ⟨0x9BC, 0x9BC⟩, ⟨0x9BE, 0x9C4⟩, ⟨0x9C7, 0x9C8⟩,
    ⟨0x9CB, 0x9CD⟩, ⟨0x9D7, 0x9D7⟩, ⟨0x9DC, 0x9DD⟩, ⟨0x9DF, 0x9E3⟩,
    ⟨0x9E6, 0x9FA⟩, ⟨0xA02, 0xA02⟩, ⟨0xA05, 0xA0A⟩, ⟨0xA0F, 0xA10⟩,
    ⟨0xA13, 0xA28⟩, ⟨0xA2A, 0xA30⟩, ⟨0xA32, 0xA33⟩, ⟨0xA35, 0xA36⟩,
    ⟨0xA38, 0xA39⟩, ⟨0xA3C, 0xA3C⟩, ⟨0xA3E, 0xA42⟩, ⟨0xA47, 0xA48⟩,
    ⟨0xA4B, 0xA4D⟩, ⟨0xA59, 0xA5C⟩, ⟨0xA5E, 0xA5E⟩, ⟨0xA66, 0xA74⟩,
    ⟨0xA81, 0xA83⟩, ⟨0xA85, 0xA8B⟩, ⟨0xA8D, 0xA8D⟩, ⟨0xA8F, 0xA91⟩,
    ⟨0xA93, 0xAA8⟩, ⟨0xAAA, 0xAB0⟩, ⟨0xAB2, 0xAB3⟩, ⟨0xAB5, 0xAB9⟩,
    ⟨0xABC, 0xAC5⟩, ⟨0xAC7, 0xAC9⟩, ⟨0xACB, 0xACD⟩, ⟨0xAD0, 0xAD0⟩,
    ⟨0xAE0, 0xAE0⟩, ⟨0xAE6, 0xAEF⟩, ⟨0xB01, 0xB03⟩, ⟨0xB05, 0xB0C⟩,
    ⟨0xB0F, 0xB10⟩, ⟨0xB13, 0xB28⟩, ⟨0xB2A, 0xB30⟩, ⟨0xB32, 0xB33⟩,
    ⟨0xB36, 0xB39⟩, ⟨0xB3C, 0xB43⟩, ⟨0xB47, 0xB48⟩, ⟨0xB4B, 0xB4D⟩,
    ⟨0xB56, 0xB57⟩, ⟨0xB5C, 0xB5D⟩, ⟨0xB5F, 0xB61⟩, ⟨0xB66, 0xB70⟩,
    ⟨0xB82, 0xB83⟩, ⟨0xB85, 0xB8A⟩, ⟨0xB8E, 0xB90⟩, ⟨0xB92, 0xB95⟩,
    ⟨0xB99, 0xB9A⟩, ⟨0xB9C, 0xB9C⟩, ⟨0xB9E, 0xB9F⟩, ⟨0xBA3, 0xBA4⟩,
    ⟨0xBA8, 0xBAA⟩, ⟨0xBAE, 0xBB5⟩, ⟨0xBB7, 0xBB9⟩, ⟨0xBBE, 0xBC2⟩,
    ⟨0xBC6, 0xBC8⟩, ⟨0xBCA, 0xBCD⟩, ⟨0xBD7, 0xBD7⟩, ⟨0xBE7, 0xBF2⟩,
    ⟨0xC01, 0xC03⟩, ⟨0xC05, 0xC0C⟩, ⟨0xC0E, 0xC10⟩, ⟨0xC12, 0xC28⟩,
    ⟨0xC2A, 0xC33⟩, ⟨0xC35, 0xC39⟩, ⟨0xC3E, 0xC44⟩, ⟨0xC46, 0xC48⟩,
    ⟨0xC4A, 0xC4D⟩, ⟨0xC55, 0xC56⟩, ⟨0xC60, 0xC61⟩, ⟨0xC66, 0xC6F⟩,
    ⟨0xC82, 0xC83⟩, ⟨0xC85, 0xC8C⟩, ⟨0xC8E, 0xC90⟩, ⟨0xC92, 0xCA8⟩,
    ⟨0xCAA, 0xCB3⟩, ⟨0xCB5, 0xCB9⟩, ⟨0xCBE, 0xCC4⟩, ⟨0xCC6, 0xCC8⟩,
    ⟨0xCCA, 0xCCD⟩, ⟨0xCD5, 0xCD6⟩, ⟨0xCDE, 0xCDE⟩, ⟨0xCE0, 0xCE1⟩,
    ⟨0xCE6, 0xCEF⟩, ⟨0xD02, 0xD03⟩, ⟨0xD05, 0xD0C⟩, ⟨0xD0E, 0xD10⟩,
    ⟨0xD12, 0xD28⟩, ⟨0xD2A, 0xD39⟩, ⟨0xD3E, 0xD43⟩, ⟨0xD46, 0xD48⟩,
    ⟨0xD4A, 0xD4D⟩, ⟨0xD57, 0xD57⟩, ⟨0xD60, 0xD61⟩, ⟨0xD66, 0xD6F⟩,
    ⟨0xE01, 0xE3A⟩, ⟨0xE3F, 0xE5B⟩, ⟨0xE81, 0xE82⟩, ⟨0xE84, 0xE84⟩,
    ⟨0xE87, 0xE88⟩, ⟨0xE8A, 0xE8A⟩, ⟨0xE8D, 0xE8D⟩, ⟨0xE94, 0xE97⟩,
    ⟨0xE99, 0xE9F⟩, ⟨0xEA1, 0xEA3⟩, ⟨0xEA5, 0xEA5⟩, ⟨0xEA7, 0xEA7⟩,
    ⟨0xEAA, 0xEAB⟩, ⟨0xEAD, 0xEB9⟩, ⟨0xEBB, 0xEBD⟩, ⟨0xEC0, 0xEC4⟩,
    ⟨0xEC6, 0xEC6⟩, ⟨0xEC8, 0xECD⟩, ⟨0xED0, 0xED9⟩, ⟨0xEDC, 0xEDD⟩,
    ⟨0x10A0, 0x10C5⟩, ⟨0x10D0, 0x10F6⟩, ⟨0x10FB, 0x10FB⟩, ⟨0x1100, 0x1159⟩,
    ⟨0x115F, 0x11A2⟩, ⟨0x11A8, 0x11F9⟩, ⟨0x1E00, 0x1E9A⟩, ⟨0x1EA0, 0x1EF9⟩,
    ⟨0x1F00, 0x1F15⟩, ⟨0x1F18, 0x1F1D⟩, ⟨0x1F20, 0x1F45⟩, ⟨0x1F48, 0x1F4D⟩,
    ⟨0x1F50, 0x1F57⟩, ⟨0x1F59, 0x1F59⟩, ⟨0x1F5B, 0x1F5B⟩, ⟨0x1F5D, 0x1F5D⟩,
    ⟨0x1F5F, 0x1F7D⟩, ⟨0x1F80, 0x1FB4⟩, ⟨0x1FB6, 0x1FC4⟩, ⟨0x1FC6, 0x1FD3⟩,
    ⟨0x1FD6, 0x1FDB⟩, ⟨0x1FDD, 0x1FEF⟩, ⟨0x1FF2, 0x1FF4⟩, ⟨0x1FF6, 0x1FFE⟩,
    ⟨0x2000, 0x202E⟩, ⟨0x2030, 0x2046⟩, ⟨0x206A, 0x2070⟩, ⟨0x2074, 0x208E⟩,
    ⟨0x20A0, 0x20AA⟩, ⟨0x20D0, 0x20E1⟩, ⟨0x2100, 0x2138⟩, ⟨0x2153, 0x2182⟩,
    ⟨0x2190, 0x21EA⟩, ⟨0x2200, 0x22F1⟩, ⟨0x2300, 0x2300⟩, ⟨0x2302, 0x237A⟩,
    ⟨0x2400, 0x2424⟩, ⟨0x2440, 0x244A⟩, ⟨0x2460, 0x24EA⟩, ⟨0x2500, 0x2595⟩,
    ⟨0x25A0, 0x25EF⟩, ⟨0x2600, 0x2613⟩, ⟨0x261A, 0x266F⟩, ⟨0x2701, 0x2704⟩,
    ⟨0x2706, 0x2709⟩, ⟨0x270C, 0x2727⟩, ⟨0x2729, 0x274B⟩, ⟨0x274D, 0x274D⟩,
    ⟨0x274F, 0x2752⟩, ⟨0x2756, 0x2756⟩, ⟨0x2758, 0x275E⟩, ⟨0x2761, 0x2767⟩,
    ⟨0x2776, 0x2794⟩, ⟨0x2798, 0x27AF⟩, ⟨0x27B1, 0x27BE⟩, ⟨0x3000, 0x3037⟩,
    ⟨0x303F, 0x303F⟩, ⟨0x3041, 0x3094⟩, ⟨0x3099, 0x309E⟩, ⟨0x30A1, 0x30FE⟩,
    ⟨0x3105, 0x312C⟩, ⟨0x3131, 0x318E⟩, ⟨0x3190, 0x319F⟩, ⟨0x3200, 0x321C⟩,
    ⟨0x3220, 0x3243⟩, ⟨0x3260, 0x327B⟩, ⟨0x327F, 0x32B0⟩, ⟨0x32C0, 0x32CB⟩,
    ⟨0x32D0, 0x32FE⟩, ⟨0x3300, 0x3376⟩, ⟨0x337B, 0x33DD⟩, ⟨0x33E0, 0x33FE⟩,
    ⟨0x4E00, 0x9FA5⟩, ⟨0xE000, 0xFA2D⟩, ⟨0xFB00, 0xFB06⟩, ⟨0xFB13, 0xFB17⟩,
    ⟨0xFB1E, 0xFB36⟩, ⟨0xFB38, 0xFB3C⟩, ⟨0xFB3E, 0xFB3E⟩, ⟨0xFB40, 0xFB41⟩,
    ⟨0xFB43, 0xFB44⟩, ⟨0xFB46, 0xFBB1⟩, ⟨0xFBD3, 0xFD3F⟩, ⟨0xFD50, 0xFD8F⟩,
    ⟨0xFD92, 0xFDC7⟩, ⟨0xFDF0, 0xFDFB⟩, ⟨0xFE20, 0xFE23⟩, ⟨0xFE30, 0xFE44⟩,
    ⟨0xFE49, 0xFE52⟩, ⟨0xFE54, 0xFE66⟩, ⟨0xFE68, 0xFE6B⟩, ⟨0xFE70, 0xFE72⟩,
    ⟨0xFE74, 0xFE74⟩, ⟨0xFE76, 0xFEFC⟩, ⟨0xFEFF, 0xFEFF⟩, ⟨0xFF01, 0xFF5E⟩,
    ⟨0xFF61, 0xFFBE⟩, ⟨0xFFC2, 0xFFC7⟩, ⟨0xFFCA, 0xFFCF⟩, ⟨0xFFD2, 0xFFD7⟩,
    ⟨0xFFDA, 0xFFDC⟩, ⟨0xFFE0, 0xFFE6⟩, ⟨0xFFE8, 0xFFEE⟩, ⟨0xFFFD, 0xFFFF⟩]⟩,
  ⟨2, 0, #[
    ⟨0x591, 0x5A1⟩, ⟨0x5A3, 0x5AF⟩, ⟨0x5C4, 0x5C4⟩, ⟨0xF00, 0xF47⟩,
    ⟨0xF49, 0xF69⟩, ⟨0xF71, 0xF8B⟩, ⟨0xF90, 0xF95⟩, ⟨0xF97, 0xF97⟩,
    ⟨0xF99, 0xFAD⟩, ⟨0xFB1, 0xFB7⟩, ⟨0xFB9, 0xFB9⟩, ⟨0x1E9B, 0x1E9B⟩,
    ⟨0x20AB, 0x20AB⟩, ⟨0xAC00, 0xD7A3⟩, ⟨0x1FFFE, 0x1FFFF⟩, ⟨0x2FFFE, 0x2FFFF⟩,
    ⟨0x3FFFE, 0x3FFFF⟩, ⟨0x4FFFE, 0x4FFFF⟩, ⟨0x5FFFE, 0x5FFFF⟩, ⟨0x6FFFE, 0x6FFFF⟩,
    ⟨0x7FFFE, 0x7FFFF⟩, ⟨0x8FFFE, 0x8FFFF⟩, ⟨0x9FFFE, 0x9FFFF⟩, ⟨0xAFFFE, 0xAFFFF⟩,
    ⟨0xBFFFE, 0xBFFFF⟩, ⟨0xCFFFE, 0xCFFFF⟩, ⟨0xDFFFE, 0xDFFFF⟩, ⟨0xEFFFE, 0x10FFFF⟩]⟩,
  ⟨2, 1, #[
    ⟨0x20AC, 0x20AC⟩, ⟨0xFFFC, 0xFFFC⟩]⟩,
  ⟨3, 0, #[
    ⟨0x1F6, 0x1F9⟩, ⟨0x218, 0x21F⟩, ⟨0x222, 0x233⟩, ⟨0x2A9, 0x2AD⟩,
    ⟨0x2DF, 0x2DF⟩, ⟨0x2EA, 0x2EE⟩, ⟨0x346, 0x34E⟩, ⟨0x362, 0x362⟩,
    ⟨0x3D7, 0x3D7⟩, ⟨0x3DB, 0x3DB⟩, ⟨0x3DD, 0x3DD⟩, ⟨0x3DF, 0x3DF⟩,
    ⟨0x3E1, 0x3E1⟩, ⟨0x400, 0x400⟩, ⟨0x40D, 0x40D⟩, ⟨0x450, 0x450⟩,
    ⟨0x45D, 0x45D⟩, ⟨0x488, 0x489⟩, ⟨0x48C, 0x48F⟩, ⟨0x4EC, 0x4ED⟩,
    ⟨0x58A, 0x58A⟩, ⟨0x653, 0x655⟩, ⟨0x6B8, 0x6B9⟩, ⟨0x6BF, 0x6BF⟩,
    ⟨0x6CF, 0x6CF⟩, ⟨0x6FA, 0x6FE⟩, ⟨0x700, 0x70D⟩, ⟨0x70F, 0x72C⟩,
    ⟨0x730, 0x74A⟩, ⟨0x780, 0x7B0⟩, ⟨0xD82, 0xD83⟩, ⟨0xD85, 0xD96⟩,
    ⟨0xD9A, 0xDB1⟩, ⟨0xDB3, 0xDBB⟩, ⟨0xDBD, 0xDBD⟩, ⟨0xDC0, 0xDC6⟩,
    ⟨0xDCA, 0xDCA⟩, ⟨0xDCF, 0xDD4⟩, ⟨0xDD6, 0xDD6⟩, ⟨0xDD8, 0xDDF⟩,
    ⟨0xDF2, 0xDF4⟩, ⟨0xF6A, 0xF6A⟩, ⟨0xF96, 0xF96⟩, ⟨0xFAE, 0xFB0⟩,
    ⟨0xFB8, 0xFB8⟩, ⟨0xFBA, 0xFBC⟩, ⟨0xFBE, 0xFCC⟩, ⟨0xFCF, 0xFCF⟩,
    ⟨0x1000, 0x1021⟩, ⟨0x1023, 0x1027⟩, ⟨0x1029, 0x102A⟩, ⟨0x102C, 0x1032⟩,
    ⟨0x1036, 0x1039⟩, ⟨0x1040, 0x1059⟩, ⟨0x1200, 0x1206⟩, ⟨0x1208, 0x1246⟩,
    ⟨0x1248, 0x1248⟩, ⟨0x124A, 0x124D⟩, ⟨0x1250, 0x1256⟩, ⟨0x1258, 0x1258⟩,
    ⟨0x125A, 0x125D⟩, ⟨0x1260, 0x1286⟩, ⟨0x1288, 0x1288⟩, ⟨0x128A, 0x128D⟩,
    ⟨0x1290, 0x12AE⟩, ⟨0x12B0, 0x12B0⟩, ⟨0x12B2, 0x12B5⟩, ⟨0x12B8, 0x12BE⟩,
    ⟨0x12C0, 0x12C0⟩, ⟨0x12C2, 0x12C5⟩, ⟨0x12C8, 0x12CE⟩, ⟨0x12D0, 0x12D6⟩,
    ⟨0x12D8, 0x12EE⟩, ⟨0x12F0, 0x130E⟩, ⟨0x1310, 0x1310⟩, ⟨0x1312, 0x1315⟩,
    ⟨0x1318, 0x131E⟩, ⟨0x1320, 0x1346⟩, ⟨0x1348, 0x135A⟩, ⟨0x1361, 0x137C⟩,
    ⟨0x13A0, 0x13F4⟩, ⟨0x1401, 0x1676⟩, ⟨0x1680, 0x169C⟩, ⟨0x16A0, 0x16F0⟩,
    ⟨0x1780, 0x17DC⟩, ⟨0x17E0, 0x17E9⟩, ⟨0x1800, 0x180E⟩, ⟨0x1810, 0x1819⟩,
    ⟨0x1820, 0x1877⟩, ⟨0x1880, 0x18A9⟩, ⟨0x202F, 0x202F⟩, ⟨0x2048, 0x204D⟩,
    ⟨0x20AD, 0x20AF⟩, ⟨0x20E2, 0x20E3⟩, ⟨0x2139, 0x213A⟩, ⟨0x2183, 0x2183⟩,
    ⟨0x21EB, 0x21F3⟩, ⟨0x2301, 0x2301⟩, ⟨0x237B, 0x237B⟩, ⟨0x237D, 0x239A⟩,
    ⟨0x2425, 0x2426⟩, ⟨0x25F0, 0x25F7⟩, ⟨0x2619, 0x2619⟩, ⟨0x2670, 0x2671⟩,
    ⟨0x2800, 0x28FF⟩, ⟨0x2E80, 0x2E99⟩, ⟨0x2E9B, 0x2EF3⟩, ⟨0x2F00, 0x2FD5⟩,
    ⟨0x2FF0, 0x2FFB⟩, ⟨0x3038, 0x303A⟩, ⟨0x303E, 0x303E⟩, ⟨0x31A0, 0x31B7⟩,
    ⟨0x3400, 0x4DB5⟩, ⟨0xA000, 0xA48C⟩, ⟨0xA490, 0xA4A1⟩, ⟨0xA4A4, 0xA4B3⟩,
    ⟨0xA4B5, 0xA4C0⟩, ⟨0xA4C2, 0xA4C4⟩, ⟨0xA4C6, 0xA4C6⟩, ⟨0xFB1D, 0xFB1D⟩,
    ⟨0xFFF9, 0xFFFB⟩]⟩,
  ⟨3, 1, #[
    ⟨0x3F4, 0x3F5⟩, ⟨0xFDD0, 0xFDEF⟩, ⟨0x10300, 0x1031E⟩, ⟨0x10320, 0x10323⟩,
    ⟨0x10330, 0x1034A⟩, ⟨0x10400, 0x10425⟩, ⟨0x10428, 0x1044D⟩, ⟨0x1D000, 0x1D0F5⟩,
    ⟨0x1D100, 0x1D126⟩, ⟨0x1D12A, 0x1D1DD⟩, ⟨0x1D400, 0x1D454⟩, ⟨0x1D456, 0x1D49C⟩,
    ⟨0x1D49E, 0x1D49F⟩, ⟨0x1D4A2, 0x1D4A2⟩, ⟨0x1D4A5, 0x1D4A6⟩, ⟨0x1D4A9, 0x1D4AC⟩,
    ⟨0x1D4AE, 0x1D4B9⟩, ⟨0x1D4BB, 0x1D4BB⟩, ⟨0x1D4BD, 0x1D4C0⟩, ⟨0x1D4C2, 0x1D4C3⟩,
    ⟨0x1D4C5, 0x1D505⟩, ⟨0x1D507, 0x1D50A⟩, ⟨0x1D50D, 0x1D514⟩, ⟨0x1D516, 0x1D51C⟩,
    ⟨0x1D51E, 0x1D539⟩, ⟨0x1D53B, 0x1D53E⟩, ⟨0x1D540, 0x1D544⟩, ⟨0x1D546, 0x1D546⟩,
    ⟨0x1D54A, 0x1D550⟩, ⟨0x1D552, 0x1D6A3⟩, ⟨0x1D6A8, 0x1D7C9⟩, ⟨0x1D7CE, 0x1D7FF⟩,
    ⟨0x20000, 0x2A6D6⟩, ⟨0x2F800, 0x2FA1D⟩, ⟨0xE0001, 0xE0001⟩, ⟨0xE0020, 0xE007F⟩]⟩,
  ⟨3, 2, #[
    ⟨0x220, 0x220⟩, ⟨0x34F, 0x34F⟩, ⟨0x363, 0x36F⟩, ⟨0x3D8, 0x3D9⟩,
    ⟨0x3F6, 0x3F6⟩, ⟨0x48A, 0x48B⟩, ⟨0x4C5, 0x4C6⟩, ⟨0x4C9, 0x4CA⟩,
    ⟨0x4CD, 0x4CE⟩, ⟨0x500, 0x50F⟩, ⟨0x66E, 0x66F⟩, ⟨0x7B1, 0x7B1⟩,
    ⟨0x10F7, 0x10F8⟩, ⟨0x1700, 0x170C⟩, ⟨0x170E, 0x1714⟩, ⟨0x1720, 0x1736⟩,
    ⟨0x1740, 0x1753⟩, ⟨0x1760, 0x176C⟩, ⟨0x176E, 0x1770⟩, ⟨0x1772, 0x1773⟩,
    ⟨0x2047, 0x2047⟩, ⟨0x204E, 0x2052⟩, ⟨0x2057, 0x2057⟩, ⟨0x205F, 0x2063⟩,
    ⟨0x2071, 0x2071⟩, ⟨0x20B0, 0x20B1⟩, ⟨0x20E4, 0x20EA⟩, ⟨0x213D, 0x214B⟩,
    ⟨0x21F4, 0x21FF⟩, ⟨0x22F2, 0x22FF⟩, ⟨0x237C, 0x237C⟩, ⟨0x239B, 0x23CE⟩,
    ⟨0x24EB, 0x24FE⟩, ⟨0x2596, 0x259F⟩, ⟨0x25F8, 0x25FF⟩, ⟨0x2616, 0x2617⟩,
    ⟨0x2672, 0x267D⟩, ⟨0x2680, 0x2689⟩, ⟨0x2768, 0x2775⟩, ⟨0x27D0, 0x27EB⟩,
    ⟨0x27F0, 0x27FF⟩, ⟨0x2900, 0x2AFF⟩, ⟨0x303B, 0x303D⟩, ⟨0x3095, 0x3096⟩,
    ⟨0x309F, 0x30A0⟩, ⟨0x30FF, 0x30FF⟩, ⟨0x31F0, 0x31FF⟩, ⟨0x3251, 0x325F⟩,
    ⟨0x32B1, 0x32BF⟩, ⟨0xA4A2, 0xA4A3⟩, ⟨0xA4B4, 0xA4B4⟩, ⟨0xA4C1, 0xA4C1⟩,
    ⟨0xA4C5, 0xA4C5⟩, ⟨0xFA30, 0xFA6A⟩, ⟨0xFDFC, 0xFDFC⟩, ⟨0xFE00, 0xFE0F⟩,
    ⟨0xFE45, 0xFE46⟩, ⟨0xFE73, 0xFE73⟩, ⟨0xFF5F, 0xFF60⟩]⟩,
  ⟨4, 0, #[
    ⟨0x221, 0x221⟩, ⟨0x234, 0x236⟩, ⟨0x2AE, 0x2AF⟩, ⟨0x2EF, 0x2FF⟩,
    ⟨0x350, 0x357⟩, ⟨0x35D, 0x35F⟩, ⟨0x3F7, 0x3FB⟩, ⟨0x600, 0x603⟩,
    ⟨0x60D, 0x615⟩, ⟨0x656, 0x658⟩, ⟨0x6EE, 0x6EF⟩, ⟨0x6FF, 0x6FF⟩,
    ⟨0x72D, 0x72F⟩, ⟨0x74D, 0x74F⟩, ⟨0x904, 0x904⟩, ⟨0x9BD, 0x9BD⟩,
    ⟨0xA01, 0xA01⟩, ⟨0xA03, 0xA03⟩, ⟨0xA8C, 0xA8C⟩, ⟨0xAE1, 0xAE3⟩,
    ⟨0xAF1, 0xAF1⟩, ⟨0xB35, 0xB35⟩, ⟨0xB71, 0xB71⟩, ⟨0xBF3, 0xBFA⟩,
    ⟨0xCBC, 0xCBD⟩, ⟨0x17DD, 0x17DD⟩, ⟨0x17F0, 0x17F9⟩, ⟨0x1900, 0x191C⟩,
    ⟨0x1920, 0x192B⟩, ⟨0x1930, 0x193B⟩, ⟨0x1940, 0x1940⟩, ⟨0x1944, 0x196D⟩,
    ⟨0x1970, 0x1974⟩, ⟨0x19E0, 0x19FF⟩, ⟨0x1D00, 0x1D6B⟩, ⟨0x2053, 0x2054⟩,
    ⟨0x213B, 0x213B⟩, ⟨0x23CF, 0x23D0⟩, ⟨0x24FF, 0x24FF⟩, ⟨0x2614, 0x2615⟩,
    ⟨0x268A, 0x2691⟩, ⟨0x26A0, 0x26A1⟩, ⟨0x2B00, 0x2B0D⟩, ⟨0x321D, 0x321E⟩,
    ⟨0x3250, 0x3250⟩, ⟨0x327C, 0x327D⟩, ⟨0x32CC, 0x32CF⟩, ⟨0x3377, 0x337A⟩,
    ⟨0x33DE, 0x33DF⟩, ⟨0x33FF, 0x33FF⟩, ⟨0x4DC0, 0x4DFF⟩, ⟨0xFDFD, 0xFDFD⟩,
    ⟨0xFE47, 0xFE48⟩, ⟨0x10000, 0x1000B⟩, ⟨0x1000D, 0x10026⟩, ⟨0x10028, 0x1003A⟩,
    ⟨0x1003C, 0x1003D⟩, ⟨0x1003F, 0x1004D⟩, ⟨0x10050, 0x1005D⟩, ⟨0x10080, 0x100FA⟩,
    ⟨0x10100, 0x10102⟩, ⟨0x10107, 0x10133⟩, ⟨0x10137, 0x1013F⟩, ⟨0x10380, 0x1039D⟩,
    ⟨0x1039F, 0x1039F⟩, ⟨0x10426, 0x10427⟩, ⟨0x1044E, 0x1049D⟩, ⟨0x104A0, 0x104A9⟩,
    ⟨0x10800, 0x10805⟩, ⟨0x10808, 0x10808⟩, ⟨0x1080A, 0x10835⟩, ⟨0x10837, 0x10838⟩,
    ⟨0x1083C, 0x1083C⟩, ⟨0x1083F, 0x1083F⟩, ⟨0x1D300, 0x1D356⟩, ⟨0x1D4C1, 0x1D4C1⟩,
    ⟨0xE0100, 0xE01EF⟩]⟩,
  ⟨4, 1, #[
    ⟨0x237, 0x241⟩, ⟨0x358, 0x35C⟩, ⟨0x3FC, 0x3FF⟩, ⟨0x4F6, 0x4F7⟩,
    ⟨0x5A2, 0x5A2⟩, ⟨0x5C5, 0x5C7⟩, ⟨0x60B, 0x60B⟩, ⟨0x61E, 0x61E⟩,
    ⟨0x659, 0x65E⟩, ⟨0x750, 0x76D⟩, ⟨0x97D, 0x97D⟩, ⟨0x9CE, 0x9CE⟩,
    ⟨0xBB6, 0xBB6⟩, ⟨0xBE6, 0xBE6⟩, ⟨0xFD0, 0xFD1⟩, ⟨0x10F9, 0x10FA⟩,
    ⟨0x10FC, 0x10FC⟩, ⟨0x1207, 0x1207⟩, ⟨0x1247, 0x1247⟩, ⟨0x1287, 0x1287⟩,
    ⟨0x12AF, 0x12AF⟩, ⟨0x12CF, 0x12CF⟩, ⟨0x12EF, 0x12EF⟩, ⟨0x130F, 0x130F⟩,
    ⟨0x131F, 0x131F⟩, ⟨0x1347, 0x1347⟩, ⟨0x135F, 0x1360⟩, ⟨0x1380, 0x1399⟩,
    ⟨0x1980, 0x19A9⟩, ⟨0x19B0, 0x19C9⟩, ⟨0x19D0, 0x19D9⟩, ⟨0x19DE, 0x19DF⟩,
    ⟨0x1A00, 0x1A1B⟩, ⟨0x1A1E, 0x1A1F⟩, ⟨0x1D6C, 0x1DC3⟩, ⟨0x2055, 0x2056⟩,
    ⟨0x2058, 0x205E⟩, ⟨0x2090, 0x2094⟩, ⟨0x20B2, 0x20B5⟩, ⟨0x20EB, 0x20EB⟩,
    ⟨0x213C, 0x213C⟩, ⟨0x214C, 0x214C⟩, ⟨0x23D1, 0x23DB⟩, ⟨0x2618, 0x2618⟩,
    ⟨0x267E, 0x267F⟩, ⟨0x2692, 0x269C⟩, ⟨0x26A2, 0x26B1⟩, ⟨0x27C0, 0x27C6⟩,
    ⟨0x2B0E, 0x2B13⟩, ⟨0x2C00, 0x2C2E⟩, ⟨0x2C30, 0x2C5E⟩, ⟨0x2C80, 0x2CEA⟩,
    ⟨0x2CF9, 0x2D25⟩, ⟨0x2D30, 0x2D65⟩, ⟨0x2D6F, 0x2D6F⟩, ⟨0x2D80, 0x2D96⟩,
    ⟨0x2DA0, 0x2DA6⟩, ⟨0x2DA8, 0x2DAE⟩, ⟨0x2DB0, 0x2DB6⟩, ⟨0x2DB8, 0x2DBE⟩,
    ⟨0x2DC0, 0x2DC6⟩, ⟨0x2DC8, 0x2DCE⟩, ⟨0x2DD0, 0x2DD6⟩, ⟨0x2DD8, 0x2DDE⟩,
    ⟨0x2E00, 0x2E17⟩, ⟨0x2E1C, 0x2E1D⟩, ⟨0x31C0, 0x31CF⟩, ⟨0x327E, 0x327E⟩,
    ⟨0x9FA6, 0x9FBB⟩, ⟨0xA700, 0xA716⟩, ⟨0xA800, 0xA82B⟩, ⟨0xFA70, 0xFAD9⟩,
    ⟨0xFE10, 0xFE19⟩, ⟨0x10140, 0x1018A⟩, ⟨0x103A0, 0x103C3⟩, ⟨0x103C8, 0x103D5⟩,
    ⟨0x10A00, 0x10A03⟩, ⟨0x10A05, 0x10A06⟩, ⟨0x10A0C, 0x10A13⟩, ⟨0x10A15, 0x10A17⟩,
    ⟨0x10A19, 0x10A33⟩, ⟨0x10A38, 0x10A3A⟩, ⟨0x10A3F, 0x10A47⟩, ⟨0x10A50, 0x10A58⟩,
    ⟨0x1D200, 0x1D245⟩, ⟨0x1D6A4, 0x1D6A5⟩]⟩,
  ⟨5, 0, #[
    ⟨0x242, 0x24F⟩, ⟨0x37B, 0x37D⟩, ⟨0x4CF, 0x4CF⟩, ⟨0x4FA, 0x4FF⟩,
    ⟨0x510, 0x513⟩, ⟨0x5BA, 0x5BA⟩, ⟨0x7C0, 0x7FA⟩, ⟨0x97B, 0x97C⟩,
    ⟨0x97E, 0x97F⟩, ⟨0xCE2, 0xCE3⟩, ⟨0xCF1, 0xCF2⟩, ⟨0x1B00, 0x1B4B⟩,
    ⟨0x1B50, 0x1B7C⟩, ⟨0x1DC4, 0x1DCA⟩, ⟨0x1DFE, 0x1DFF⟩, ⟨0x20EC, 0x20EF⟩,
    ⟨0x214D, 0x214E⟩, ⟨0x2184, 0x2184⟩, ⟨0x23DC, 0x23E7⟩, ⟨0x26B2, 0x26B2⟩,
    ⟨0x27C7, 0x27CA⟩, ⟨0x2B14, 0x2B1A⟩, ⟨0x2B20, 0x2B23⟩, ⟨0x2C60, 0x2C6C⟩,
    ⟨0x2C74, 0x2C77⟩, ⟨0xA717, 0xA71A⟩, ⟨0xA720, 0xA721⟩, ⟨0xA840, 0xA877⟩,
    ⟨0x10900, 0x10919⟩, ⟨0x1091F, 0x1091F⟩, ⟨0x12000, 0x1236E⟩, ⟨0x12400, 0x12462⟩,
    ⟨0x12470, 0x12473⟩, ⟨0x1D360, 0x1D371⟩, ⟨0x1D7CA, 0x1D7CB⟩]⟩,
  ⟨5, 1, #[
    ⟨0x370, 0x373⟩, ⟨0x376, 0x377⟩, ⟨0x3CF, 0x3CF⟩, ⟨0x487, 0x487⟩,
    ⟨0x514, 0x523⟩, ⟨0x606, 0x60A⟩, ⟨0x616, 0x61A⟩, ⟨0x63B, 0x63F⟩,
    ⟨0x76E, 0x77F⟩, ⟨0x971, 0x972⟩, ⟨0xA51, 0xA51⟩, ⟨0xA75, 0xA75⟩,
    ⟨0xB44, 0xB44⟩, ⟨0xB62, 0xB63⟩, ⟨0xBD0, 0xBD0⟩, ⟨0xC3D, 0xC3D⟩,
    ⟨0xC58, 0xC59⟩, ⟨0xC62, 0xC63⟩, ⟨0xC78, 0xC7F⟩, ⟨0xD3D, 0xD3D⟩,
    ⟨0xD44, 0xD44⟩, ⟨0xD62, 0xD63⟩, ⟨0xD70, 0xD75⟩, ⟨0xD79, 0xD7F⟩,
    ⟨0xF6B, 0xF6C⟩, ⟨0xFCE, 0xFCE⟩, ⟨0xFD2, 0xFD4⟩, ⟨0x1022, 0x1022⟩,
    ⟨0x1028, 0x1028⟩, ⟨0x102B, 0x102B⟩, ⟨0x1033, 0x1035⟩, ⟨0x103A, 0x103F⟩,
    ⟨0x105A, 0x1099⟩, ⟨0x109E, 0x109F⟩, ⟨0x18AA, 0x18AA⟩, ⟨0x1B80, 0x1BAA⟩,
    ⟨0x1BAE, 0x1BB9⟩, ⟨0x1C00, 0x1C37⟩, ⟨0x1C3B, 0x1C49⟩, ⟨0x1C4D, 0x1C7F⟩,
    ⟨0x1DCB, 0x1DE6⟩, ⟨0x1E9C, 0x1E9F⟩, ⟨0x1EFA, 0x1EFF⟩, ⟨0x2064, 0x2064⟩,
    ⟨0x20F0, 0x20F0⟩, ⟨0x214F, 0x214F⟩, ⟨0x2185, 0x2188⟩, ⟨0x269D, 0x269D⟩,
    ⟨0x26B3, 0x26BC⟩, ⟨0x26C0, 0x26C3⟩, ⟨0x27CC, 0x27CC⟩, ⟨0x27EC, 0x27EF⟩,
    ⟨0x2B1B, 0x2B1F⟩, ⟨0x2B24, 0x2B4C⟩, ⟨0x2B50, 0x2B54⟩, ⟨0x2C6D, 0x2C6F⟩,
    ⟨0x2C71, 0x2C73⟩, ⟨0x2C78, 0x2C7D⟩, ⟨0x2DE0, 0x2DFF⟩, ⟨0x2E18, 0x2E1B⟩,
    ⟨0x2E1E, 0x2E30⟩, ⟨0x312D, 0x312D⟩, ⟨0x31D0, 0x31E3⟩, ⟨0x9FBC, 0x9FC3⟩,
    ⟨0xA500, 0xA62B⟩, ⟨0xA640, 0xA65F⟩, ⟨0xA662, 0xA673⟩, ⟨0xA67C, 0xA697⟩,
    ⟨0xA71B, 0xA71F⟩, ⟨0xA722, 0xA78C⟩, ⟨0xA7FB, 0xA7FF⟩, ⟨0xA880, 0xA8C4⟩,
    ⟨0xA8CE, 0xA8D9⟩, ⟨0xA900, 0xA953⟩, ⟨0xA95F, 0xA95F⟩, ⟨0xAA00, 0xAA36⟩,
    ⟨0xAA40, 0xAA4D⟩, ⟨0xAA50, 0xAA59⟩, ⟨0xAA5C, 0xAA5F⟩, ⟨0xFE24, 0xFE26⟩,
    ⟨0x10190, 0x1019B⟩, ⟨0x101D0, 0x101FD⟩, ⟨0x10280, 0x1029C⟩, ⟨0x102A0, 0x102D0⟩,
    ⟨0x10920, 0x10939⟩, ⟨0x1093F, 0x1093F⟩, ⟨0x1D129, 0x1D129⟩, ⟨0x1F000, 0x1F02B⟩,
    ⟨0x1F030, 0x1F093⟩]⟩,
  ⟨5, 2, #[
    ⟨0x524, 0x525⟩, ⟨0x800, 0x82D⟩, ⟨0x830, 0x83E⟩, ⟨0x900, 0x900⟩,
    ⟨0x94E, 0x94E⟩, ⟨0x955, 0x955⟩, ⟨0x979, 0x97A⟩, ⟨0x9FB, 0x9FB⟩,
    ⟨0xFD5, 0xFD8⟩, ⟨0x109A, 0x109D⟩, ⟨0x115A, 0x115E⟩, ⟨0x11A3, 0x11A7⟩,
    ⟨0x11FA, 0x11FF⟩, ⟨0x1400, 0x1400⟩, ⟨0x1677, 0x167F⟩, ⟨0x18B0, 0x18F5⟩,
    ⟨0x19AA, 0x19AB⟩, ⟨0x19DA, 0x19DA⟩, ⟨0x1A20, 0x1A5E⟩, ⟨0x1A60, 0x1A7C⟩,
    ⟨0x1A7F, 0x1A89⟩, ⟨0x1A90, 0x1A99⟩, ⟨0x1AA0, 0x1AAD⟩, ⟨0x1CD0, 0x1CF2⟩,
    ⟨0x1DFD, 0x1DFD⟩, ⟨0x20B6, 0x20B8⟩, ⟨0x2150, 0x2152⟩, ⟨0x2189, 0x2189⟩,
    ⟨0x23E8, 0x23E8⟩, ⟨0x269E, 0x269F⟩, ⟨0x26BD, 0x26BF⟩, ⟨0x26C4, 0x26CD⟩,
    ⟨0x26CF, 0x26E1⟩, ⟨0x26E3, 0x26E3⟩, ⟨0x26E8, 0x26FF⟩, ⟨0x2757, 0x2757⟩,
    ⟨0x2B55, 0x2B59⟩, ⟨0x2C70, 0x2C70⟩, ⟨0x2C7E, 0x2C7F⟩, ⟨0x2CEB, 0x2CF1⟩,
    ⟨0x2E31, 0x2E31⟩, ⟨0x3244, 0x324F⟩, ⟨0x9FC4, 0x9FCB⟩, ⟨0xA4D0, 0xA4FF⟩,
    ⟨0xA6A0, 0xA6F7⟩, ⟨0xA830, 0xA839⟩, ⟨0xA8E0, 0xA8FB⟩, ⟨0xA960, 0xA97C⟩,
    ⟨0xA980, 0xA9CD⟩, ⟨0xA9CF, 0xA9D9⟩, ⟨0xA9DE, 0xA9DF⟩, ⟨0xAA60, 0xAA7B⟩,
    ⟨0xAA80, 0xAAC2⟩, ⟨0xAADB, 0xAADF⟩, ⟨0xABC0, 0xABED⟩, ⟨0xABF0, 0xABF9⟩,
    ⟨0xD7B0, 0xD7C6⟩, ⟨0xD7CB, 0xD7FB⟩, ⟨0xFA6B, 0xFA6D⟩, ⟨0x10840, 0x10855⟩,
    ⟨0x10857, 0x1085F⟩, ⟨0x1091A, 0x1091B⟩, ⟨0x10A60, 0x10A7F⟩, ⟨0x10B00, 0x10B35⟩,
    ⟨0x10B39, 0x10B55⟩, ⟨0x10B58, 0x10B72⟩, ⟨0x10B78, 0x10B7F⟩, ⟨0x10C00, 0x10C48⟩,
    ⟨0x10E60, 0x10E7E⟩, ⟨0x11080, 0x110C1⟩, ⟨0x13000, 0x1342E⟩, ⟨0x1F100, 0x1F10A⟩,
    ⟨0x1F110, 0x1F12E⟩, ⟨0x1F131, 0x1F131⟩, ⟨0x1F13D, 0x1F13D⟩, ⟨0x1F13F, 0x1F13F⟩,
    ⟨0x1F142, 0x1F142⟩, ⟨0x1F146, 0x1F146⟩, ⟨0x1F14A, 0x1F14E⟩, ⟨0x1F157, 0x1F157⟩,
    ⟨0x1F15F, 0x1F15F⟩, ⟨0x1F179, 0x1F179⟩, ⟨0x1F17B, 0x1F17C⟩, ⟨0x1F17F, 0x1F17F⟩,
    ⟨0x1F18A, 0x1F18D⟩, ⟨0x1F190, 0x1F190⟩, ⟨0x1F200, 0x1F200⟩, ⟨0x1F210, 0x1F231⟩,
    ⟨0x1F240, 0x1F248⟩, ⟨0x2A700, 0x2B734⟩]⟩,
  ⟨6, 0, #[
    ⟨0x526, 0x527⟩, ⟨0x620, 0x620⟩, ⟨0x65F, 0x65F⟩, ⟨0x840, 0x85B⟩,
    ⟨0x85E, 0x85E⟩, ⟨0x93A, 0x93B⟩, ⟨0x94F, 0x94F⟩, ⟨0x956, 0x957⟩,
    ⟨0x973, 0x977⟩, ⟨0xB72, 0xB77⟩, ⟨0xD29, 0xD29⟩, ⟨0xD3A, 0xD3A⟩,
    ⟨0xD4E, 0xD4E⟩, ⟨0xF8C, 0xF8F⟩, ⟨0xFD9, 0xFDA⟩, ⟨0x135D, 0x135E⟩,
    ⟨0x1BC0, 0x1BF3⟩, ⟨0x1BFC, 0x1BFF⟩, ⟨0x1DFC, 0x1DFC⟩, ⟨0x2095, 0x209C⟩,
    ⟨0x20B9, 0x20B9⟩, ⟨0x23E9, 0x23F3⟩, ⟨0x26CE, 0x26CE⟩, ⟨0x26E2, 0x26E2⟩,
    ⟨0x26E4, 0x26E7⟩, ⟨0x2705, 0x2705⟩, ⟨0x270A, 0x270B⟩, ⟨0x2728, 0x2728⟩,
    ⟨0x274C, 0x274C⟩, ⟨0x274E, 0x274E⟩, ⟨0x2753, 0x2755⟩, ⟨0x275F, 0x2760⟩,
    ⟨0x2795, 0x2797⟩, ⟨0x27B0, 0x27B0⟩, ⟨0x27BF, 0x27BF⟩, ⟨0x27CE, 0x27CF⟩,
    ⟨0x2D70, 0x2D70⟩, ⟨0x2D7F, 0x2D7F⟩, ⟨0x31B8, 0x31BA⟩, ⟨0xA660, 0xA661⟩,
    ⟨0xA78D, 0xA78E⟩, ⟨0xA790, 0xA791⟩, ⟨0xA7A0, 0xA7A9⟩, ⟨0xA7FA, 0xA7FA⟩,
    ⟨0xAB01, 0xAB06⟩, ⟨0xAB09, 0xAB0E⟩, ⟨0xAB11, 0xAB16⟩, ⟨0xAB20, 0xAB26⟩,
    ⟨0xAB28, 0xAB2E⟩, ⟨0xFBB2, 0xFBC1⟩, ⟨0x11000, 0x1104D⟩, ⟨0x11052, 0x1106F⟩,
    ⟨0x16800, 0x16A38⟩, ⟨0x1B000, 0x1B001⟩, ⟨0x1F0A0, 0x1F0AE⟩, ⟨0x1F0B1, 0x1F0BE⟩,
    ⟨0x1F0C1, 0x1F0CF⟩, ⟨0x1F0D1, 0x1F0DF⟩, ⟨0x1F130, 0x1F130⟩, ⟨0x1F132, 0x1F13C⟩,
    ⟨0x1F13E, 0x1F13E⟩, ⟨0x1F140, 0x1F141⟩, ⟨0x1F143, 0x1F145⟩, ⟨0x1F147, 0x1F149⟩,
    ⟨0x1F14F, 0x1F156⟩, ⟨0x1F158, 0x1F15E⟩, ⟨0x1F160, 0x1F169⟩, ⟨0x1F170, 0x1F178⟩,
    ⟨0x1F17A, 0x1F17A⟩, ⟨0x1F17D, 0x1F17E⟩, ⟨0x1F180, 0x1F189⟩, ⟨0x1F18E, 0x1F18F⟩,
    ⟨0x1F191, 0x1F19A⟩, ⟨0x1F1E6, 0x1F1FF⟩, ⟨0x1F201, 0x1F202⟩, ⟨0x1F232, 0x1F23A⟩,
    ⟨0x1F250, 0x1F251⟩, ⟨0x1F300, 0x1F320⟩, ⟨0x1F330, 0x1F335⟩, ⟨0x1F337, 0x1F37C⟩,
    ⟨0x1F380, 0x1F393⟩, ⟨0x1F3A0, 0x1F3C4⟩, ⟨0x1F3C6, 0x1F3CA⟩, ⟨0x1F3E0, 0x1F3F0⟩,
    ⟨0x1F400, 0x1F43E⟩, ⟨0x1F440, 0x1F440⟩, ⟨0x1F442, 0x1F4F7⟩, ⟨0x1F4F9, 0x1F4FC⟩,
    ⟨0x1F500, 0x1F53D⟩, ⟨0x1F550, 0x1F567⟩, ⟨0x1F5FB, 0x1F5FF⟩, ⟨0x1F601, 0x1F610⟩,
    ⟨0x1F612, 0x1F614⟩, ⟨0x1F616, 0x1F616⟩, ⟨0x1F618, 0x1F618⟩, ⟨0x1F61A, 0x1F61A⟩,
    ⟨0x1F61C, 0x1F61E⟩, ⟨0x1F620, 0x1F625⟩, ⟨0x1F628, 0x1F62B⟩, ⟨0x1F62D, 0x1F62D⟩,
    ⟨0x1F630, 0x1F633⟩, ⟨0x1F635, 0x1F640⟩, ⟨0x1F645, 0x1F64F⟩, ⟨0x1F680, 0x1F6C5⟩,
    ⟨0x1F700, 0x1F773⟩, ⟨0x2B740, 0x2B81D⟩]⟩,
  ⟨6, 1, #[
    ⟨0x58F, 0x58F⟩, ⟨0x604, 0x604⟩, ⟨0x8A0, 0x8A0⟩, ⟨0x8A2, 0x8AC⟩,
    ⟨0x8E4, 0x8FE⟩, ⟨0xAF0, 0xAF0⟩, ⟨0xEDE, 0xEDF⟩, ⟨0x10C7, 0x10C7⟩,
    ⟨0x10CD, 0x10CD⟩, ⟨0x10FD, 0x10FF⟩, ⟨0x1BAB, 0x1BAD⟩, ⟨0x1BBA, 0x1BBF⟩,
    ⟨0x1CC0, 0x1CC7⟩, ⟨0x1CF3, 0x1CF6⟩, ⟨0x27CB, 0x27CB⟩, ⟨0x27CD, 0x27CD⟩,
    ⟨0x2CF2, 0x2CF3⟩, ⟨0x2D27, 0x2D27⟩, ⟨0x2D2D, 0x2D2D⟩, ⟨0x2D66, 0x2D67⟩,
    ⟨0x2E32, 0x2E3B⟩, ⟨0x9FCC, 0x9FCC⟩, ⟨0xA674, 0xA67B⟩, ⟨0xA69F, 0xA69F⟩,
    ⟨0xA792, 0xA793⟩, ⟨0xA7AA, 0xA7AA⟩, ⟨0xA7F8, 0xA7F9⟩, ⟨0xAAE0, 0xAAF6⟩,
    ⟨0xFA2E, 0xFA2F⟩, ⟨0x10980, 0x109B7⟩, ⟨0x109BE, 0x109BF⟩, ⟨0x110D0, 0x110E8⟩,
    ⟨0x110F0, 0x110F9⟩, ⟨0x11100, 0x11134⟩, ⟨0x11136, 0x11143⟩, ⟨0x11180, 0x111C8⟩,
    ⟨0x111D0, 0x111D9⟩, ⟨0x11680, 0x116B7⟩, ⟨0x116C0, 0x116C9⟩, ⟨0x16F00, 0x16F44⟩,
    ⟨0x16F50, 0x16F7E⟩, ⟨0x16F8F, 0x16F9F⟩, ⟨0x1EE00, 0x1EE03⟩, ⟨0x1EE05, 0x1EE1F⟩,
    ⟨0x1EE21, 0x1EE22⟩, ⟨0x1EE24, 0x1EE24⟩, ⟨0x1EE27, 0x1EE27⟩, ⟨0x1EE29, 0x1EE32⟩,
    ⟨0x1EE34, 0x1EE37⟩, ⟨0x1EE39, 0x1EE39⟩, ⟨0x1EE3B, 0x1EE3B⟩, ⟨0x1EE42, 0x1EE42⟩,
    ⟨0x1EE47, 0x1EE47⟩, ⟨0x1EE49, 0x1EE49⟩, ⟨0x1EE4B, 0x1EE4B⟩, ⟨0x1EE4D, 0x1EE4F⟩,
    ⟨0x1EE51, 0x1EE52⟩, ⟨0x1EE54, 0x1EE54⟩, ⟨0x1EE57, 0x1EE57⟩, ⟨0x1EE59, 0x1EE59⟩,
    ⟨0x1EE5B, 0x1EE5B⟩, ⟨0x1EE5D, 0x1EE5D⟩, ⟨0x1EE5F, 0x1EE5F⟩, ⟨0x1EE61, 0x1EE62⟩,
    ⟨0x1EE64, 0x1EE64⟩, ⟨0x1EE67, 0x1EE6A⟩, ⟨0x1EE6C, 0x1EE72⟩, ⟨0x1EE74, 0x1EE77⟩,
    ⟨0x1EE79, 0x1EE7C⟩, ⟨0x1EE7E, 0x1EE7E⟩, ⟨0x1EE80, 0x1EE89⟩, ⟨0x1EE8B, 0x1EE9B⟩,
    ⟨0x1EEA1, 0x1EEA3⟩, ⟨0x1EEA5, 0x1EEA9⟩, ⟨0x1EEAB, 0x1EEBB⟩, ⟨0x1EEF0, 0x1EEF1⟩,
    ⟨0x1F16A, 0x1F16B⟩, ⟨0x1F540, 0x1F543⟩, ⟨0x1F600, 0x1F600⟩, ⟨0x1F611, 0x1F611⟩,
    ⟨0x1F615, 0x1F615⟩, ⟨0x1F617, 0x1F617⟩, ⟨0x1F619, 0x1F619⟩, ⟨0x1F61B, 0x1F61B⟩,
    ⟨0x1F61F, 0x1F61F⟩, ⟨0x1F626, 0x1F627⟩, ⟨0x1F62C, 0x1F62C⟩, ⟨0x1F62E, 0x1F62F⟩,
    ⟨0x1F634, 0x1F634⟩]⟩,
  ⟨6, 2, #[
    ⟨0x20BA, 0x20BA⟩]⟩,
  ⟨6, 3, #[
    ⟨0x61C, 0x61C⟩, ⟨0x2066, 0x2069⟩]⟩,
  ⟨7, 0, #[
    ⟨0x37F, 0x37F⟩, ⟨0x528, 0x52F⟩, ⟨0x58D, 0x58E⟩, ⟨0x605, 0x605⟩,
    ⟨0x8A1, 0x8A1⟩, ⟨0x8AD, 0x8B2⟩, ⟨0x8FF, 0x8FF⟩, ⟨0x978, 0x978⟩,
    ⟨0x980, 0x980⟩, ⟨0xC00, 0xC00⟩, ⟨0xC34, 0xC34⟩, ⟨0xC81, 0xC81⟩,
    ⟨0xD01, 0xD01⟩, ⟨0xDE6, 0xDEF⟩, ⟨0x16F1, 0x16F8⟩, ⟨0x191D, 0x191E⟩,
    ⟨0x1AB0, 0x1ABE⟩, ⟨0x1CF8, 0x1CF9⟩, ⟨0x1DE7, 0x1DF5⟩, ⟨0x20BB, 0x20BD⟩,
    ⟨0x23F4, 0x23FA⟩, ⟨0x2700, 0x2700⟩, ⟨0x2B4D, 0x2B4F⟩, ⟨0x2B5A, 0x2B73⟩,
    ⟨0x2B76, 0x2B95⟩, ⟨0x2B98, 0x2BB9⟩, ⟨0x2BBD, 0x2BC8⟩, ⟨0x2BCA, 0x2BD1⟩,
    ⟨0x2E3C, 0x2E42⟩, ⟨0xA698, 0xA69D⟩, ⟨0xA794, 0xA79F⟩, ⟨0xA7AB, 0xA7AD⟩,
    ⟨0xA7B0, 0xA7B1⟩, ⟨0xA7F7, 0xA7F7⟩, ⟨0xA9E0, 0xA9FE⟩, ⟨0xAA7C, 0xAA7F⟩,
    ⟨0xAB30, 0xAB5F⟩, ⟨0xAB64, 0xAB65⟩, ⟨0xFE27, 0xFE2D⟩, ⟨0x1018B, 0x1018C⟩,
    ⟨0x101A0, 0x101A0⟩, ⟨0x102E0, 0x102FB⟩, ⟨0x1031F, 0x1031F⟩, ⟨0x10350, 0x1037A⟩,
    ⟨0x10500, 0x10527⟩, ⟨0x10530, 0x10563⟩, ⟨0x1056F, 0x1056F⟩, ⟨0x10600, 0x10736⟩,
    ⟨0x10740, 0x10755⟩, ⟨0x10760, 0x10767⟩, ⟨0x10860, 0x1089E⟩, ⟨0x108A7, 0x108AF⟩,
    ⟨0x10A80, 0x10A9F⟩, ⟨0x10AC0, 0x10AE6⟩, ⟨0x10AEB, 0x10AF6⟩, ⟨0x10B80, 0x10B91⟩,
    ⟨0x10B99, 0x10B9C⟩, ⟨0x10BA9, 0x10BAF⟩, ⟨0x1107F, 0x1107F⟩, ⟨0x11150, 0x11176⟩,
    ⟨0x111CD, 0x111CD⟩, ⟨0x111DA, 0x111DA⟩, ⟨0x111E1, 0x111F4⟩, ⟨0x11200, 0x11211⟩,
    ⟨0x11213, 0x1123D⟩, ⟨0x112B0, 0x112EA⟩, ⟨0x112F0, 0x112F9⟩, ⟨0x11301, 0x11303⟩,
    ⟨0x11305, 0x1130C⟩, ⟨0x1130F, 0x11310⟩, ⟨0x11313, 0x11328⟩, ⟨0x1132A, 0x11330⟩,
    ⟨0x11332, 0x11333⟩, ⟨0x11335, 0x11339⟩, ⟨0x1133C, 0x11344⟩, ⟨0x11347, 0x11348⟩,
    ⟨0x1134B, 0x1134D⟩, ⟨0x11357, 0x11357⟩, ⟨0x1135D, 0x11363⟩, ⟨0x11366, 0x1136C⟩,
    ⟨0x11370, 0x11374⟩, ⟨0x11480, 0x114C7⟩, ⟨0x114D0, 0x114D9⟩, ⟨0x11580, 0x115B5⟩,
    ⟨0x115B8, 0x115C9⟩, ⟨0x11600, 0x11644⟩, ⟨0x11650, 0x11659⟩, ⟨0x118A0, 0x118F2⟩,
    ⟨0x118FF, 0x118FF⟩, ⟨0x11AC0, 0x11AF8⟩, ⟨0x1236F, 0x12398⟩, ⟨0x12463, 0x1246E⟩,
    ⟨0x12474, 0x12474⟩, ⟨0x16A40, 0x16A5E⟩, ⟨0x16A60, 0x16A69⟩, ⟨0x16A6E, 0x16A6F⟩,
    ⟨0x16AD0, 0x16AED⟩, ⟨0x16AF0, 0x16AF5⟩, ⟨0x16B00, 0x16B45⟩, ⟨0x16B50, 0x16B59⟩,
    ⟨0x16B5B, 0x16B61⟩, ⟨0x16B63, 0x16B77⟩, ⟨0x16B7D, 0x16B8F⟩, ⟨0x1BC00, 0x1BC6A⟩,
    ⟨0x1BC70, 0x1BC7C⟩, ⟨0x1BC80, 0x1BC88⟩, ⟨0x1BC90, 0x1BC99⟩, ⟨0x1BC9C, 0x1BCA3⟩,
    ⟨0x1E800, 0x1E8C4⟩, ⟨0x1E8C7, 0x1E8D6⟩, ⟨0x1F0BF, 0x1F0BF⟩, ⟨0x1F0E0, 0x1F0F5⟩,
    ⟨0x1F10B, 0x1F10C⟩, ⟨0x1F321, 0x1F32C⟩, ⟨0x1F336, 0x1F336⟩, ⟨0x1F37D, 0x1F37D⟩,
    ⟨0x1F394, 0x1F39F⟩, ⟨0x1F3C5, 0x1F3C5⟩, ⟨0x1F3CB, 0x1F3CE⟩, ⟨0x1F3D4, 0x1F3DF⟩,
    ⟨0x1F3F1, 0x1F3F7⟩, ⟨0x1F43F, 0x1F43F⟩, ⟨0x1F441, 0x1F441⟩, ⟨0x1F4F8, 0x1F4F8⟩,
    ⟨0x1F4FD, 0x1F4FE⟩, ⟨0x1F53E, 0x1F53F⟩, ⟨0x1F544, 0x1F54A⟩, ⟨0x1F568, 0x1F579⟩,
    ⟨0x1F57B, 0x1F5A3⟩, ⟨0x1F5A5, 0x1F5FA⟩, ⟨0x1F641, 0x1F642⟩, ⟨0x1F650, 0x1F67F⟩,
    ⟨0x1F6C6, 0x1F6CF⟩, ⟨0x1F6E0, 0x1F6EC⟩, ⟨0x1F6F0, 0x1F6F3⟩, ⟨0x1F780, 0x1F7D4⟩,
    ⟨0x1F800, 0x1F80B⟩, ⟨0x1F810, 0x1F847⟩, ⟨0x1F850, 0x1F859⟩, ⟨0x1F860, 0x1F887⟩,
    ⟨0x1F890, 0x1F8AD⟩]⟩,
  ⟨8, 0, #[
    ⟨0x8B3, 0x8B4⟩, ⟨0x8E3, 0x8E3⟩, ⟨0xAF9, 0xAF9⟩, ⟨0xC5A, 0xC5A⟩,
    ⟨0xD5F, 0xD5F⟩, ⟨0x13F5, 0x13F5⟩, ⟨0x13F8, 0x13FD⟩, ⟨0x20BE, 0x20BE⟩,
    ⟨0x218A, 0x218B⟩, ⟨0x2BEC, 0x2BEF⟩, ⟨0x9FCD, 0x9FD5⟩, ⟨0xA69E, 0xA69E⟩,
    ⟨0xA78F, 0xA78F⟩, ⟨0xA7B2, 0xA7B7⟩, ⟨0xA8FC, 0xA8FD⟩, ⟨0xAB60, 0xAB63⟩,
    ⟨0xAB70, 0xABBF⟩, ⟨0xFE2E, 0xFE2F⟩, ⟨0x108E0, 0x108F2⟩, ⟨0x108F4, 0x108F5⟩,
    ⟨0x108FB, 0x108FF⟩, ⟨0x109BC, 0x109BD⟩, ⟨0x109C0, 0x109CF⟩, ⟨0x109D2, 0x109FF⟩,
    ⟨0x10C80, 0x10CB2⟩, ⟨0x10CC0, 0x10CF2⟩, ⟨0x10CFA, 0x10CFF⟩, ⟨0x111C9, 0x111CC⟩,
    ⟨0x111DB, 0x111DF⟩, ⟨0x11280, 0x11286⟩, ⟨0x11288, 0x11288⟩, ⟨0x1128A, 0x1128D⟩,
    ⟨0x1128F, 0x1129D⟩, ⟨0x1129F, 0x112A9⟩, ⟨0x11300, 0x11300⟩, ⟨0x11350, 0x11350⟩,
    ⟨0x115CA, 0x115DD⟩, ⟨0x11700, 0x11719⟩, ⟨0x1171D, 0x1172B⟩, ⟨0x11730, 0x1173F⟩,
    ⟨0x12399, 0x12399⟩, ⟨0x12480, 0x12543⟩, ⟨0x14400, 0x14646⟩, ⟨0x1D1DE, 0x1D1E8⟩,
    ⟨0x1D800, 0x1DA8B⟩, ⟨0x1DA9B, 0x1DA9F⟩, ⟨0x1DAA1, 0x1DAAF⟩, ⟨0x1F32D, 0x1F32F⟩,
    ⟨0x1F37E, 0x1F37F⟩, ⟨0x1F3CF, 0x1F3D3⟩, ⟨0x1F3F8, 0x1F3FF⟩, ⟨0x1F4FF, 0x1F4FF⟩,
    ⟨0x1F54B, 0x1F54F⟩, ⟨0x1F643, 0x1F644⟩, ⟨0x1F6D0, 0x1F6D0⟩, ⟨0x1F910, 0x1F918⟩,
    ⟨0x1F980, 0x1F984⟩, ⟨0x1F9C0, 0x1F9C0⟩, ⟨0x2B820, 0x2CEA1⟩]⟩,
  ⟨9, 0, #[
    ⟨0x8B6, 0x8BD⟩, ⟨0x8D4, 0x8E2⟩, ⟨0xC80, 0xC80⟩, ⟨0xD4F, 0xD4F⟩,
    ⟨0xD54, 0xD56⟩, ⟨0xD58, 0xD5E⟩, ⟨0xD76, 0xD78⟩, ⟨0x1C80, 0x1C88⟩,
    ⟨0x1DFB, 0x1DFB⟩, ⟨0x23FB, 0x23FE⟩, ⟨0x2E43, 0x2E44⟩, ⟨0xA7AE, 0xA7AE⟩,
    ⟨0xA8C5, 0xA8C5⟩, ⟨0x1018D, 0x1018E⟩, ⟨0x104B0, 0x104D3⟩, ⟨0x104D8, 0x104FB⟩,
    ⟨0x1123E, 0x1123E⟩, ⟨0x11400, 0x11459⟩, ⟨0x1145B, 0x1145B⟩, ⟨0x1145D, 0x1145D⟩,
    ⟨0x11660, 0x1166C⟩, ⟨0x11C00, 0x11C08⟩, ⟨0x11C0A, 0x11C36⟩, ⟨0x11C38, 0x11C45⟩,
    ⟨0x11C50, 0x11C6C⟩, ⟨0x11C70, 0x11C8F⟩, ⟨0x11C92, 0x11CA7⟩, ⟨0x11CA9, 0x11CB6⟩,
    ⟨0x16FE0, 0x16FE0⟩, ⟨0x17000, 0x187EC⟩, ⟨0x18800, 0x18AF2⟩, ⟨0x1E000, 0x1E006⟩,
    ⟨0x1E008, 0x1E018⟩, ⟨0x1E01B, 0x1E021⟩, ⟨0x1E023, 0x1E024⟩, ⟨0x1E026, 0x1E02A⟩,
    ⟨0x1E900, 0x1E94A⟩, ⟨0x1E950, 0x1E959⟩, ⟨0x1E95E, 0x1E95F⟩, ⟨0x1F19B, 0x1F1AC⟩,
    ⟨0x1F23B, 0x1F23B⟩, ⟨0x1F57A, 0x1F57A⟩, ⟨0x1F5A4, 0x1F5A4⟩, ⟨0x1F6D1, 0x1F6D2⟩,
    ⟨0x1F6F4, 0x1F6F6⟩, ⟨0x1F919, 0x1F91E⟩, ⟨0x1F920, 0x1F927⟩, ⟨0x1F930, 0x1F930⟩,
    ⟨0x1F933, 0x1F93E⟩, ⟨0x1F940, 0x1F94B⟩, ⟨0x1F950, 0x1F95E⟩, ⟨0x1F985, 0x1F991⟩]⟩,
  ⟨10, 0, #[
    ⟨0x860, 0x86A⟩, ⟨0x9FC, 0x9FD⟩, ⟨0xAFA, 0xAFF⟩, ⟨0xD00, 0xD00⟩,
    ⟨0xD3B, 0xD3C⟩, ⟨0x1CF7, 0x1CF7⟩, ⟨0x1DF6, 0x1DF9⟩, ⟨0x20BF, 0x20BF⟩,
    ⟨0x23FF, 0x23FF⟩, ⟨0x2BD2, 0x2BD2⟩, ⟨0x2E45, 0x2E49⟩, ⟨0x312E, 0x312E⟩,
    ⟨0x9FD6, 0x9FEA⟩, ⟨0x1032D, 0x1032F⟩, ⟨0x11A00, 0x11A47⟩, ⟨0x11A50, 0x11A83⟩,
    ⟨0x11A86, 0x11A9C⟩, ⟨0x11A9E, 0x11AA2⟩, ⟨0x11D00, 0x11D06⟩, ⟨0x11D08, 0x11D09⟩,
    ⟨0x11D0B, 0x11D36⟩, ⟨0x11D3A, 0x11D3A⟩, ⟨0x11D3C, 0x11D3D⟩, ⟨0x11D3F, 0x11D47⟩,
    ⟨0x11D50, 0x11D59⟩, ⟨0x16FE1, 0x16FE1⟩, ⟨0x1B002, 0x1B11E⟩, ⟨0x1B170, 0x1B2FB⟩,
    ⟨0x1F260, 0x1F265⟩, ⟨0x1F6D3, 0x1F6D4⟩, ⟨0x1F6F7, 0x1F6F8⟩, ⟨0x1F900, 0x1F90B⟩,
    ⟨0x1F91F, 0x1F91F⟩, ⟨0x1F928, 0x1F92F⟩, ⟨0x1F931, 0x1F932⟩, ⟨0x1F94C, 0x1F94C⟩,
    ⟨0x1F95F, 0x1F96B⟩, ⟨0x1F992, 0x1F997⟩, ⟨0x1F9D0, 0x1F9E6⟩, ⟨0x2CEB0, 0x2EBE0⟩]⟩,
  ⟨11, 0, #[
    ⟨0x560, 0x560⟩, ⟨0x588, 0x588⟩, ⟨0x5EF, 0x5EF⟩, ⟨0x7FD, 0x7FF⟩,
    ⟨0x8D3, 0x8D3⟩, ⟨0x9FE, 0x9FE⟩, ⟨0xA76, 0xA76⟩, ⟨0xC04, 0xC04⟩,
    ⟨0xC84, 0xC84⟩, ⟨0x1878, 0x1878⟩, ⟨0x1C90, 0x1CBA⟩, ⟨0x1CBD, 0x1CBF⟩,
    ⟨0x2BBA, 0x2BBC⟩, ⟨0x2BD3, 0x2BEB⟩, ⟨0x2BF0, 0x2BFE⟩, ⟨0x2E4A, 0x2E4E⟩,
    ⟨0x312F, 0x312F⟩, ⟨0x9FEB, 0x9FEF⟩, ⟨0xA7AF, 0xA7AF⟩, ⟨0xA7B8, 0xA7B9⟩,
    ⟨0xA8FE, 0xA8FF⟩, ⟨0x10A34, 0x10A35⟩, ⟨0x10A48, 0x10A48⟩, ⟨0x10D00, 0x10D27⟩,
    ⟨0x10D30, 0x10D39⟩, ⟨0x10F00, 0x10F27⟩, ⟨0x10F30, 0x10F59⟩, ⟨0x110CD, 0x110CD⟩,
    ⟨0x11144, 0x11146⟩, ⟨0x1133B, 0x1133B⟩, ⟨0x1145E, 0x1145E⟩, ⟨0x1171A, 0x1171A⟩,
    ⟨0x11800, 0x1183B⟩, ⟨0x11A9D, 0x11A9D⟩, ⟨0x11D60, 0x11D65⟩, ⟨0x11D67, 0x11D68⟩,
    ⟨0x11D6A, 0x11D8E⟩, ⟨0x11D90, 0x11D91⟩, ⟨0x11D93, 0x11D98⟩, ⟨0x11DA0, 0x11DA9⟩,
    ⟨0x11EE0, 0x11EF8⟩, ⟨0x16E40, 0x16E9A⟩, ⟨0x187ED, 0x187F1⟩, ⟨0x1D2E0, 0x1D2F3⟩,
    ⟨0x1D372, 0x1D378⟩, ⟨0x1EC71, 0x1ECB4⟩, ⟨0x1F12F, 0x1F12F⟩, ⟨0x1F6F9, 0x1F6F9⟩,
    ⟨0x1F7D5, 0x1F7D8⟩, ⟨0x1F94D, 0x1F94F⟩, ⟨0x1F96C, 0x1F970⟩, ⟨0x1F973, 0x1F976⟩,
    ⟨0x1F97A, 0x1F97A⟩, ⟨0x1F97C, 0x1F97F⟩, ⟨0x1F998, 0x1F9A2⟩, ⟨0x1F9B0, 0x1F9B9⟩,
    ⟨0x1F9C1, 0x1F9C2⟩, ⟨0x1F9E7, 0x1F9FF⟩, ⟨0x1FA60, 0x1FA6D⟩]⟩,
  ⟨12, 0, #[
    ⟨0xC77, 0xC77⟩, ⟨0xE86, 0xE86⟩, ⟨0xE89, 0xE89⟩, ⟨0xE8C, 0xE8C⟩,
    ⟨0xE8E, 0xE93⟩, ⟨0xE98, 0xE98⟩, ⟨0xEA0, 0xEA0⟩, ⟨0xEA8, 0xEA9⟩,
    ⟨0xEAC, 0xEAC⟩, ⟨0xEBA, 0xEBA⟩, ⟨0x1CFA, 0x1CFA⟩, ⟨0x2BC9, 0x2BC9⟩,
    ⟨0x2BFF, 0x2BFF⟩, ⟨0x2E4F, 0x2E4F⟩, ⟨0xA7BA, 0xA7BF⟩, ⟨0xA7C2, 0xA7C6⟩,
    ⟨0xAB66, 0xAB67⟩, ⟨0x10FE0, 0x10FF6⟩, ⟨0x1145F, 0x1145F⟩, ⟨0x116B8, 0x116B8⟩,
    ⟨0x119A0, 0x119A7⟩, ⟨0x119AA, 0x119D7⟩, ⟨0x119DA, 0x119E4⟩, ⟨0x11A84, 0x11A85⟩,
    ⟨0x11FC0, 0x11FF1⟩, ⟨0x11FFF, 0x11FFF⟩, ⟨0x13430, 0x13438⟩, ⟨0x16F45, 0x16F4A⟩,
    ⟨0x16F4F, 0x16F4F⟩, ⟨0x16F7F, 0x16F87⟩, ⟨0x16FE2, 0x16FE3⟩, ⟨0x187F2, 0x187F7⟩,
    ⟨0x1B150, 0x1B152⟩, ⟨0x1B164, 0x1B167⟩, ⟨0x1E100, 0x1E12C⟩, ⟨0x1E130, 0x1E13D⟩,
    ⟨0x1E140, 0x1E149⟩, ⟨0x1E14E, 0x1E14F⟩, ⟨0x1E2C0, 0x1E2F9⟩, ⟨0x1E2FF, 0x1E2FF⟩,
    ⟨0x1E94B, 0x1E94B⟩, ⟨0x1ED01, 0x1ED3D⟩, ⟨0x1F16C, 0x1F16C⟩, ⟨0x1F6D5, 0x1F6D5⟩,
    ⟨0x1F6FA, 0x1F6FA⟩, ⟨0x1F7E0, 0x1F7EB⟩, ⟨0x1F90D, 0x1F90F⟩, ⟨0x1F93F, 0x1F93F⟩,
    ⟨0x1F971, 0x1F971⟩, ⟨0x1F97B, 0x1F97B⟩, ⟨0x1F9A5, 0x1F9AA⟩, ⟨0x1F9AE, 0x1F9AF⟩,
    ⟨0x1F9BA, 0x1F9BF⟩, ⟨0x1F9C3, 0x1F9CA⟩, ⟨0x1F9CD, 0x1F9CF⟩, ⟨0x1FA00, 0x1FA53⟩,
    ⟨0x1FA70, 0x1FA73⟩, ⟨0x1FA78, 0x1FA7A⟩, ⟨0x1FA80, 0x1FA82⟩, ⟨0x1FA90, 0x1FA95⟩]⟩,
  ⟨12, 1, #[
    ⟨0x32FF, 0x32FF⟩]⟩,
  ⟨13, 0, #[
    ⟨0x8BE, 0x8C7⟩, ⟨0xB55, 0xB55⟩, ⟨0xD04, 0xD04⟩, ⟨0xD81, 0xD81⟩,
    ⟨0x1ABF, 0x1AC0⟩, ⟨0x2B97, 0x2B97⟩, ⟨0x2E50, 0x2E52⟩, ⟨0x31BB, 0x31BF⟩,
    ⟨0x4DB6, 0x4DBF⟩, ⟨0x9FF0, 0x9FFC⟩, ⟨0xA7C7, 0xA7CA⟩, ⟨0xA7F5, 0xA7F6⟩,
    ⟨0xA82C, 0xA82C⟩, ⟨0xAB68, 0xAB6B⟩, ⟨0x1019C, 0x1019C⟩, ⟨0x10E80, 0x10EA9⟩,
    ⟨0x10EAB, 0x10EAD⟩, ⟨0x10EB0, 0x10EB1⟩, ⟨0x10FB0, 0x10FCB⟩, ⟨0x11147, 0x11147⟩,
    ⟨0x111CE, 0x111CF⟩, ⟨0x1145A, 0x1145A⟩, ⟨0x11460, 0x11461⟩, ⟨0x11900, 0x11906⟩,
    ⟨0x11909, 0x11909⟩, ⟨0x1190C, 0x11913⟩, ⟨0x11915, 0x11916⟩, ⟨0x11918, 0x11935⟩,
    ⟨0x11937, 0x11938⟩, ⟨0x1193B, 0x11946⟩, ⟨0x11950, 0x11959⟩, ⟨0x11FB0, 0x11FB0⟩,
    ⟨0x16FE4, 0x16FE4⟩, ⟨0x16FF0, 0x16FF1⟩, ⟨0x18AF3, 0x18CD5⟩, ⟨0x18D00, 0x18D08⟩,
    ⟨0x1F10D, 0x1F10F⟩, ⟨0x1F16D, 0x1F16F⟩, ⟨0x1F1AD, 0x1F1AD⟩, ⟨0x1F6D6, 0x1F6D7⟩,
    ⟨0x1F6FB, 0x1F6FC⟩, ⟨0x1F8B0, 0x1F8B1⟩, ⟨0x1F90C, 0x1F90C⟩, ⟨0x1F972, 0x1F972⟩,
    ⟨0x1F977, 0x1F978⟩, ⟨0x1F9A3, 0x1F9A4⟩, ⟨0x1F9AB, 0x1F9AD⟩, ⟨0x1F9CB, 0x1F9CB⟩,
    ⟨0x1FA74, 0x1FA74⟩, ⟨0x1FA83, 0x1FA86⟩, ⟨0x1FA96, 0x1FAA8⟩, ⟨0x1FAB0, 0x1FAB6⟩,
    ⟨0x1FAC0, 0x1FAC2⟩, ⟨0x1FAD0, 0x1FAD6⟩, ⟨0x1FB00, 0x1FB92⟩, ⟨0x1FB94, 0x1FBCA⟩,
    ⟨0x1FBF0, 0x1FBF9⟩, ⟨0x2A6D7, 0x2A6DD⟩, ⟨0x30000, 0x3134A⟩]⟩,
  ⟨14, 0, #[
    ⟨0x61D, 0x61D⟩, ⟨0x870, 0x88E⟩, ⟨0x890, 0x891⟩, ⟨0x898, 0x89F⟩,
    ⟨0x8B5, 0x8B5⟩, ⟨0x8C8, 0x8D2⟩, ⟨0xC3C, 0xC3C⟩, ⟨0xC5D, 0xC5D⟩,
    ⟨0xCDD, 0xCDD⟩, ⟨0x170D, 0x170D⟩, ⟨0x1715, 0x1715⟩, ⟨0x171F, 0x171F⟩,
    ⟨0x180F, 0x180F⟩, ⟨0x1AC1, 0x1ACE⟩, ⟨0x1B4C, 0x1B4C⟩, ⟨0x1B7D, 0x1B7E⟩,
    ⟨0x1DFA, 0x1DFA⟩, ⟨0x20C0, 0x20C0⟩, ⟨0x2C2F, 0x2C2F⟩, ⟨0x2C5F, 0x2C5F⟩,
    ⟨0x2E53, 0x2E5D⟩, ⟨0x9FFD, 0x9FFF⟩, ⟨0xA7C0, 0xA7C1⟩, ⟨0xA7D0, 0xA7D1⟩,
    ⟨0xA7D3, 0xA7D3⟩, ⟨0xA7D5, 0xA7D9⟩, ⟨0xA7F2, 0xA7F4⟩, ⟨0xFBC2, 0xFBC2⟩,
    ⟨0xFD40, 0xFD4F⟩, ⟨0xFDCF, 0xFDCF⟩, ⟨0xFDFE, 0xFDFF⟩, ⟨0x10570, 0x1057A⟩,
    ⟨0x1057C, 0x1058A⟩, ⟨0x1058C, 0x10592⟩, ⟨0x10594, 0x10595⟩, ⟨0x10597, 0x105A1⟩,
    ⟨0x105A3, 0x105B1⟩, ⟨0x105B3, 0x105B9⟩, ⟨0x105BB, 0x105BC⟩, ⟨0x10780, 0x10785⟩,
    ⟨0x10787, 0x107B0⟩, ⟨0x107B2, 0x107BA⟩, ⟨0x10F70, 0x10F89⟩, ⟨0x11070, 0x11075⟩,
    ⟨0x110C2, 0x110C2⟩, ⟨0x116B9, 0x116B9⟩, ⟨0x11740, 0x11746⟩, ⟨0x11AB0, 0x11ABF⟩,
    ⟨0x12F90, 0x12FF2⟩, ⟨0x16A70, 0x16ABE⟩, ⟨0x16AC0, 0x16AC9⟩, ⟨0x1AFF0, 0x1AFF3⟩,
    ⟨0x1AFF5, 0x1AFFB⟩, ⟨0x1AFFD, 0x1AFFE⟩, ⟨0x1B11F, 0x1B122⟩, ⟨0x1CF00, 0x1CF2D⟩,
    ⟨0x1CF30, 0x1CF46⟩, ⟨0x1CF50, 0x1CFC3⟩, ⟨0x1D1E9, 0x1D1EA⟩, ⟨0x1DF00, 0x1DF1E⟩,
    ⟨0x1E290, 0x1E2AE⟩, ⟨0x1E7E0, 0x1E7E6⟩, ⟨0x1E7E8, 0x1E7EB⟩, ⟨0x1E7ED, 0x1E7EE⟩,
    ⟨0x1E7F0, 0x1E7FE⟩, ⟨0x1F6DD, 0x1F6DF⟩, ⟨0x1F7F0, 0x1F7F0⟩, ⟨0x1F979, 0x1F979⟩,
    ⟨0x1F9CC, 0x1F9CC⟩, ⟨0x1FA7B, 0x1FA7C⟩, ⟨0x1FAA9, 0x1FAAC⟩, ⟨0x1FAB7, 0x1FABA⟩,
    ⟨0x1FAC3, 0x1FAC5⟩, ⟨0x1FAD7, 0x1FAD9⟩, ⟨0x1FAE0, 0x1FAE7⟩, ⟨0x1FAF0, 0x1FAF6⟩,
    ⟨0x2A6DE, 0x2A6DF⟩, ⟨0x2B735, 0x2B738⟩]⟩,
  ⟨15, 0, #[
    ⟨0xCF3, 0xCF3⟩, ⟨0xECE, 0xECE⟩, ⟨0x10EFD, 0x10EFF⟩, ⟨0x1123F, 0x11241⟩,
    ⟨0x11B00, 0x11B09⟩, ⟨0x11F00, 0x11F10⟩, ⟨0x11F12, 0x11F3A⟩, ⟨0x11F3E, 0x11F59⟩,
    ⟨0x1342F, 0x1342F⟩, ⟨0x13439, 0x13455⟩, ⟨0x1B132, 0x1B132⟩, ⟨0x1B155, 0x1B155⟩,
    ⟨0x1D2C0, 0x1D2D3⟩, ⟨0x1DF25, 0x1DF2A⟩, ⟨0x1E030, 0x1E06D⟩, ⟨0x1E08F, 0x1E08F⟩,
    ⟨0x1E4D0, 0x1E4F9⟩, ⟨0x1F6DC, 0x1F6DC⟩, ⟨0x1F774, 0x1F776⟩, ⟨0x1F77B, 0x1F77F⟩,
    ⟨0x1F7D9, 0x1F7D9⟩, ⟨0x1FA75, 0x1FA77⟩, ⟨0x1FA87, 0x1FA88⟩, ⟨0x1FAAD, 0x1FAAF⟩,
    ⟨0x1FABB, 0x1FABD⟩, ⟨0x1FABF, 0x1FABF⟩, ⟨0x1FACE, 0x1FACF⟩, ⟨0x1FADA, 0x1FADB⟩,
    ⟨0x1FAE8, 0x1FAE8⟩, ⟨0x1FAF7, 0x1FAF8⟩, ⟨0x2B739, 0x2B739⟩, ⟨0x31350, 0x323AF⟩]⟩,
  ⟨15, 1, #[
    ⟨0x2FFC, 0x2FFF⟩, ⟨0x31EF, 0x31EF⟩, ⟨0x2EBF0, 0x2EE5D⟩]⟩,
  ⟨16, 0, #[
    ⟨0x897, 0x897⟩, ⟨0x1B4E, 0x1B4F⟩, ⟨0x1B7F, 0x1B7F⟩, ⟨0x1C89, 0x1C8A⟩,
    ⟨0x2427, 0x2429⟩, ⟨0x31E4, 0x31E5⟩, ⟨0xA7CB, 0xA7CD⟩, ⟨0xA7DA, 0xA7DC⟩,
    ⟨0x105C0, 0x105F3⟩, ⟨0x10D40, 0x10D65⟩, ⟨0x10D69, 0x10D85⟩, ⟨0x10D8E, 0x10D8F⟩,
    ⟨0x10EC2, 0x10EC4⟩, ⟨0x10EFC, 0x10EFC⟩, ⟨0x11380, 0x11389⟩, ⟨0x1138B, 0x1138B⟩,
    ⟨0x1138E, 0x1138E⟩, ⟨0x11390, 0x113B5⟩, ⟨0x113B7, 0x113C0⟩, ⟨0x113C2, 0x113C2⟩,
    ⟨0x113C5, 0x113C5⟩, ⟨0x113C7, 0x113CA⟩, ⟨0x113CC, 0x113D5⟩, ⟨0x113D7, 0x113D8⟩,
    ⟨0x113E1, 0x113E2⟩, ⟨0x116D0, 0x116E3⟩, ⟨0x11BC0, 0x11BE1⟩, ⟨0x11BF0, 0x11BF9⟩,
    ⟨0x11F5A, 0x11F5A⟩, ⟨0x13460, 0x143FA⟩, ⟨0x16100, 0x16139⟩, ⟨0x16D40, 0x16D79⟩,
    ⟨0x18CFF, 0x18CFF⟩, ⟨0x1CC00, 0x1CCF9⟩, ⟨0x1CD00, 0x1CEB3⟩, ⟨0x1E5D0, 0x1E5FA⟩,
    ⟨0x1E5FF, 0x1E5FF⟩, ⟨0x1F8B2, 0x1F8BB⟩, ⟨0x1F8C0, 0x1F8C1⟩, ⟨0x1FA89, 0x1FA89⟩,
    ⟨0x1FA8F, 0x1FA8F⟩, ⟨0x1FABE, 0x1FABE⟩, ⟨0x1FAC6, 0x1FAC6⟩, ⟨0x1FADC, 0x1FADC⟩,
    ⟨0x1FADF, 0x1FADF⟩, ⟨0x1FAE9, 0x1FAE9⟩, ⟨0x1FBCB, 0x1FBEF⟩]⟩]

end DocFilter
