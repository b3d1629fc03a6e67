import DocFilter.Json.Strict
import DocFilter.Text.Blank
import Mathlib.Data.List.TakeWhile

/-!
# How far readers look ahead

A reader takes a value off the front of a text. Numbers end where the text has no more digits, and
all else ends by itself, so text that follows behind a blank makes no difference to what is read
(`Dialect.Continued`). By induction on the steps, for the three readers of containers at once, it
makes none to containers either (`Dialect.Continues`), with as many steps or more.

> `Json.read?_append_eq_none`: text that begins with a value, and goes on behind a blank with something
> that is not blank, is not strict JSON.
-/

namespace DocFilter

/-! ## Blanks -/

/-- The text is empty or begins with a blank. -/
def StartsBlank (cs : List Char) : Prop :=
  ∀ c ∈ cs.head?, isBlank c = true

theorem StartsBlank.cases {more : List Char} (h : StartsBlank more) :
    more = [] ∨ ∃ c cs, more = c :: cs ∧ isBlank c = true := by
  cases more with
  | nil => exact .inl rfl
  | cons c cs => exact .inr ⟨c, cs, rfl, h c rfl⟩

theorem ne_of_isBlank {c d : Char} (hc : isBlank c = true) (hd : isBlank d = false) : c ≠ d := by
  rintro rfl
  rw [hc] at hd
  cases hd

theorem isDigit_of_isBlank {c : Char} (hc : isBlank c = true) : c.isDigit = false := by
  simp only [isBlank, Bool.or_eq_true, Bool.and_eq_true, decide_eq_true_eq, beq_iff_eq] at hc
  rw [Bool.eq_false_iff]
  intro hdigit
  simp only [Char.isDigit, Bool.and_eq_true, decide_eq_true_eq] at hdigit
  have hlow : 48 ≤ c.toNat := hdigit.1
  have hhigh : c.toNat ≤ 57 := hdigit.2
  omega

theorem isBlank_of_isSpace {c : Char} (hc : Json.isSpace c = true) : isBlank c = true := by
  simp only [Json.isSpace, Bool.or_eq_true, beq_iff_eq] at hc
  rcases hc with ((rfl | rfl) | rfl) | rfl <;> rfl

/-! ## Numbers -/

theorem takeSign_cons_append (c : Char) (cs more : List Char) :
    takeSign (c :: (cs ++ more)) = ((takeSign (c :: cs)).1, (takeSign (c :: cs)).2 ++ more) := by
  by_cases hminus : c = '-'
  · subst hminus
    rfl
  · by_cases hplus : c = '+'
    · subst hplus
      rfl
    · simp [takeSign, hminus, hplus]

namespace Json

theorem takeFraction_point (cs : List Char) :
    takeFraction ('.' :: cs) =
      match takeDigits cs with
      | ([], _) => none
      | (digits, rest) => some (digits, rest) := rfl

theorem takeFraction_of_ne {c : Char} (cs : List Char) (hpoint : c ≠ '.') :
    takeFraction (c :: cs) = some ([], c :: cs) := by
  simp [takeFraction, hpoint]

/-- Whether a number with this fraction, which goes on like this, is written as an integer. -/
def isIntegral (fraction rest : List Char) : Bool :=
  match rest with
  | 'e' :: _ | 'E' :: _ => false
  | _ => fraction.isEmpty

/-- The number with these parts. -/
def numberOf? (negative : Bool) (whole fraction : List Char) (exponent : Int) (integral : Bool) :
    Option Json :=
  if integral then
    if negative && digitsValue whole == 0 then some (.number (.float (-0.0)))
    else
      match integerNumber negative (digitsValue whole) with
      | .int i => some (.number (.int i))
      | .float _ => decimal? negative whole fraction exponent
  else decimal? negative whole fraction exponent

/-- Whether digits can be the whole part of a number: there are some, and no needless zero. -/
def isWhole : List Char → Bool
  | [] => false
  | '0' :: _ :: _ => false
  | _ => true

/-- A number is read part by part, and its value is made of the parts. -/
theorem takeUnsigned_eq (negative : Bool) (cs : List Char) :
    takeUnsigned negative cs =
      if isWhole (takeDigits cs).1 then
        (takeFraction (takeDigits cs).2).bind fun fraction =>
          (takeExponent fraction.2).bind fun exponent =>
            (numberOf? negative (takeDigits cs).1 fraction.1 exponent.1
              (isIntegral fraction.1 fraction.2)).map (·, exponent.2)
      else none := by
  unfold takeUnsigned
  dsimp only
  split
  · next hnone => rw [hnone, isWhole, if_neg Bool.false_ne_true]
  · next hzero => rw [hzero, isWhole, if_neg Bool.false_ne_true]
  · next whole hne hzero =>
    have hwhole : isWhole (takeDigits cs).1 = true := by
      unfold isWhole
      split
      · next h => exact absurd h hne
      · next h => exact absurd h (hzero _ _)
      · rfl
    rw [if_pos hwhole]
    refine congrArg _ (funext fun taken => ?_)
    obtain ⟨fraction, rest⟩ := taken
    refine congrArg _ (funext fun taken => ?_)
    obtain ⟨exponent, after⟩ := taken
    dsimp only
    unfold numberOf?
    by_cases hintegral : isIntegral fraction rest = true
    · rw [if_pos hintegral]
      refine (if_pos hintegral).trans ?_
      split_ifs
      · rfl
      · cases integerNumber negative (digitsValue (takeDigits cs).1) with
        | int i => rfl
        | float x =>
          rw [Option.map_eq_bind]
          rfl
    · rw [if_neg hintegral]
      refine (if_neg hintegral).trans ?_
      rw [Option.map_eq_bind]
      rfl

end Json

section
variable {more : List Char} (hmore : StartsBlank more)
include hmore

/-- A run of digits ends at a blank. -/
theorem takeDigits_append (cs : List Char) :
    takeDigits (cs ++ more) = ((takeDigits cs).1, (takeDigits cs).2 ++ more) := by
  induction cs with
  | nil =>
    rcases hmore.cases with rfl | ⟨c, cs, rfl, hc⟩
    · rfl
    · simp [takeDigits, isDigit_of_isBlank hc]
  | cons c cs ih =>
    by_cases hc : c.isDigit = true
    · simp [takeDigits, hc] at ih ⊢
      exact ih
    · simp [takeDigits, hc]

theorem takeExponent_append {cs : List Char} {e : Int} {rest : List Char}
    (h : takeExponent cs = some (e, rest)) :
    takeExponent (cs ++ more) = some (e, rest ++ more) := by
  cases cs with
  | nil =>
    cases h
    rcases hmore.cases with rfl | ⟨c, cs, rfl, hc⟩
    · rfl
    · have hmark : ¬ (c = 'e' ∨ c = 'E') :=
        not_or.mpr ⟨ne_of_isBlank hc rfl, ne_of_isBlank hc rfl⟩
      exact if_neg hmark
  | cons c cs =>
    rw [takeExponent_cons] at h
    rw [List.cons_append, takeExponent_cons]
    by_cases hmark : c = 'e' ∨ c = 'E'
    · rw [if_pos hmark] at h ⊢
      cases cs with
      | nil => cases h
      | cons s cs =>
        -- something stands behind the mark already, so no sign is added
        rw [List.cons_append, takeSign_cons_append, takeDigits_append hmore]
        generalize takeDigits (takeSign (s :: cs)).2 = taken at h ⊢
        obtain ⟨_ | ⟨d, digits⟩, after⟩ := taken
        · cases h
        · cases h
          rfl
    · rw [if_neg hmark] at h ⊢
      cases h
      rfl

namespace Json

theorem takeFraction_append {cs : List Char} {fraction rest : List Char}
    (h : takeFraction cs = some (fraction, rest)) :
    takeFraction (cs ++ more) = some (fraction, rest ++ more) := by
  cases cs with
  | nil =>
    cases h
    rcases hmore.cases with rfl | ⟨c, cs, rfl, hc⟩
    · rfl
    · exact takeFraction_of_ne cs (ne_of_isBlank hc rfl)
  | cons c cs =>
    by_cases hpoint : c = '.'
    · subst hpoint
      rw [List.cons_append, takeFraction_point, takeDigits_append hmore]
      rw [takeFraction_point] at h
      generalize takeDigits cs = taken at h ⊢
      obtain ⟨_ | ⟨d, digits⟩, after⟩ := taken
      · cases h
      · cases h
        rfl
    · rw [takeFraction_of_ne cs hpoint] at h
      cases h
      exact takeFraction_of_ne (cs ++ more) hpoint

theorem isIntegral_append (fraction rest : List Char) :
    isIntegral fraction (rest ++ more) = isIntegral fraction rest := by
  cases rest with
  | nil =>
    rcases hmore.cases with rfl | ⟨c, cs, rfl, hc⟩
    · rfl
    · have he : c ≠ 'e' := ne_of_isBlank hc rfl
      have hE : c ≠ 'E' := ne_of_isBlank hc rfl
      simp [isIntegral, he, hE]
  | cons c rest =>
    by_cases he : c = 'e'
    · subst he
      rfl
    · by_cases hE : c = 'E'
      · subst hE
        rfl
      · simp [isIntegral, he, hE]

/-- A number ends at a blank. -/
theorem takeUnsigned_append {negative : Bool} {cs : List Char} {v : Json} {rest : List Char}
    (h : takeUnsigned negative cs = some (v, rest)) :
    takeUnsigned negative (cs ++ more) = some (v, rest ++ more) := by
  rw [takeUnsigned_eq] at h ⊢
  rw [takeDigits_append hmore]
  generalize takeDigits cs = taken at h ⊢
  obtain ⟨whole, start⟩ := taken
  dsimp only at h ⊢
  split_ifs at h ⊢ with hwhole
  simp only [Option.bind_eq_some_iff] at h
  obtain ⟨⟨fraction, mark⟩, hfraction, ⟨exponent, after⟩, hexponent, h⟩ := h
  rw [takeFraction_append hmore hfraction, Option.bind_some, takeExponent_append hmore hexponent,
    Option.bind_some, isIntegral_append hmore]
  obtain ⟨number, hnumber, h⟩ := Option.map_eq_some_iff.mp h
  cases h
  rw [hnumber]
  rfl

end Json

end

/-! ## Strings and words -/

theorem takeHex_append (more : List Char) {count : Nat} {cs : List Char} {n : Nat}
    {rest : List Char} (h : takeHex count cs = some (n, rest)) :
    takeHex count (cs ++ more) = some (n, rest ++ more) := by
  induction count generalizing cs n with
  | zero =>
    cases h
    rfl
  | succ count ih =>
    cases cs with
    | nil => cases h
    | cons c cs =>
      simp only [takeHex, Option.bind_eq_bind, Option.bind_eq_some_iff] at h
      obtain ⟨high, hhigh, ⟨low, after⟩, hlow, h⟩ := h
      cases h
      simp only [List.cons_append, takeHex, hhigh, ih hlow, Option.bind_eq_bind, Option.bind_some]

theorem takeUnicodeEscape_append (more : List Char) {cs : List Char} {c : Char} {rest : List Char}
    (h : takeUnicodeEscape cs = some (c, rest)) :
    takeUnicodeEscape (cs ++ more) = some (c, rest ++ more) := by
  unfold takeUnicodeEscape at h ⊢
  simp only [Option.bind_eq_bind, Option.bind_eq_some_iff] at h
  obtain ⟨⟨unit, after⟩, hunit, h⟩ := h
  rw [takeHex_append more hunit, Option.bind_eq_bind, Option.bind_some]
  dsimp only at h ⊢
  split_ifs at h ⊢
  · cases h
    rfl
  · split at h
    · simp only [Option.bind_eq_some_iff] at h
      obtain ⟨⟨low, last⟩, hlow, h⟩ := h
      simp only [List.cons_append, takeHex_append more hlow, Option.bind_some]
      split_ifs at h ⊢
      dsimp only at h ⊢
      rw [Option.some.injEq, Prod.mk.injEq] at h ⊢
      exact ⟨h.1, congrArg (· ++ more) h.2⟩
    · cases h

theorem takeWord_append (more : List Char) {word cs rest : List Char}
    (h : takeWord word cs = some rest) : takeWord word (cs ++ more) = some (rest ++ more) := by
  induction word generalizing cs with
  | nil =>
    cases h
    rfl
  | cons w word ih =>
    cases cs with
    | nil => cases h
    | cons c cs =>
      rw [takeWord] at h
      rw [List.cons_append, takeWord]
      split_ifs at h ⊢
      exact ih h

namespace Json

theorem takeString_nil (text : List Char) (fuel : Nat) : takeString text fuel [] = none := by
  cases fuel <;> rfl

theorem takeString_append (more : List Char) {text : List Char} {fuel fuel' : Nat} {cs : List Char}
    {s : String} {rest : List Char} (h : takeString text fuel cs = some (s, rest))
    (hfuel : fuel ≤ fuel') : takeString text fuel' (cs ++ more) = some (s, rest ++ more) := by
  induction fuel generalizing text fuel' cs with
  | zero => cases h
  | succ fuel ih =>
    obtain ⟨extra, rfl⟩ := Nat.exists_eq_add_of_le' hfuel
    have hless : fuel ≤ extra + fuel := Nat.le_add_left _ _
    unfold takeString at h
    split at h
    · contradiction
    · next hsucc =>
      cases hsucc
      cases h
      rfl
    · next hsucc =>
      cases hsucc
      split at h
      -- eight escapes stand for one character each
      iterate 8
        have hread := ih h hless
        exact hread
      · split at h
        · next c after hescape =>
          refine Eq.trans ?_ (ih h hless)
          simp only [List.cons_append, ← Nat.add_assoc, takeString,
            takeUnicodeEscape_append more hescape]
        · cases h
      · cases h
    · next c cs hquote hbackslash hsucc =>
      cases hsucc
      split_ifs at h with hcontrol
      -- a backslash at the end of the text would become an escape, but nothing is read there
      have hescape : ∀ d ds, c = '\\' → cs ++ more = d :: ds → False := by
        rintro d ds rfl hcs
        cases cs with
        | nil =>
          rw [takeString_nil] at h
          cases h
        | cons d cs => exact hbackslash d cs rfl rfl
      rw [List.cons_append, ← Nat.add_assoc, takeString, if_neg hcontrol]
      · exact ih h hless
      · exact hquote
      · exact hescape
    · cases h

theorem takeString_append_length (more : List Char) {cs : List Char} {s : String}
    {rest : List Char} (h : takeString [] (cs.length + 1) cs = some (s, rest)) :
    takeString [] ((cs ++ more).length + 1) (cs ++ more) = some (s, rest ++ more) := by
  refine takeString_append more h (Nat.add_le_add_right ?_ 1)
  rw [List.length_append]
  exact Nat.le_add_right _ _

theorem takeKey_append (more : List Char) {cs : List Char} {key : String} {rest : List Char}
    (h : takeKey cs = some (key, rest)) :
    cs ≠ [] ∧ takeKey (cs ++ more) = some (key, rest ++ more) := by
  unfold takeKey at h
  split at h
  · exact ⟨List.cons_ne_nil _ _, takeString_append_length more h⟩
  · cases h

/-- A string as a value. -/
theorem takeStringValue_append (more : List Char) {cs : List Char} {v : Json} {rest : List Char}
    (h : (takeString [] (cs.length + 1) cs).map (fun x => (Json.string x.1, x.2)) = some (v, rest)) :
    (takeString [] ((cs ++ more).length + 1) (cs ++ more)).map (fun x => (Json.string x.1, x.2)) =
      some (v, rest ++ more) := by
  obtain ⟨⟨text, after⟩, hread, heq⟩ := Option.map_eq_some_iff.mp h
  cases heq
  rw [takeString_append_length more hread]
  rfl

/-- A word that stands for a value. -/
theorem takeWordValue_append (more : List Char) {word cs : List Char} {w v : Json}
    {rest : List Char} (h : (takeWord word cs).map (w, ·) = some (v, rest)) :
    (takeWord word (cs ++ more)).map (w, ·) = some (v, rest ++ more) := by
  obtain ⟨after, hread, heq⟩ := Option.map_eq_some_iff.mp h
  cases heq
  rw [takeWord_append more hread]
  rfl

/-- **A value that is no container ends at a blank.** -/
theorem takeScalar_append {more : List Char} (hmore : StartsBlank more) {cs : List Char} {v : Json}
    {rest : List Char} (h : takeScalar cs = some (v, rest)) :
    cs ≠ [] ∧ takeScalar (cs ++ more) = some (v, rest ++ more) := by
  unfold takeScalar at h
  split at h
  · exact ⟨List.cons_ne_nil _ _, takeStringValue_append more h⟩
  · exact ⟨List.cons_ne_nil _ _, takeUnsigned_append hmore h⟩
  · exact ⟨List.cons_ne_nil _ _, takeWordValue_append more h⟩
  · exact ⟨List.cons_ne_nil _ _, takeWordValue_append more h⟩
  · exact ⟨List.cons_ne_nil _ _, takeWordValue_append more h⟩
  · next hquote hminus ht hf hn =>
    cases cs with
    | nil => cases h
    | cons c cs =>
      -- the first character decides which reader it is, and it stays the first one
      refine ⟨List.cons_ne_nil c cs, Eq.trans ?_ (takeUnsigned_append hmore h)⟩
      rw [List.cons_append, takeScalar]
      · exact fun rest hcs => hquote cs (by rw [(List.cons.inj hcs).1])
      · exact fun rest hcs => hminus cs (by rw [(List.cons.inj hcs).1])
      · exact fun rest hcs => ht cs (by rw [(List.cons.inj hcs).1])
      · exact fun rest hcs => hf cs (by rw [(List.cons.inj hcs).1])
      · exact fun rest hcs => hn cs (by rw [(List.cons.inj hcs).1])

end Json

/-! ## Containers -/

namespace Dialect

/-- Text that goes on with `more` is read as it is without: blanks end in front of a character, and
scalars and keys, which are not empty, end where they did. No comma stands behind a last item. -/
structure Continued (d : Dialect) (more : List Char) : Prop where
  comma : d.trailingComma = false
  skip : ∀ {cs c rest}, d.skip cs = some (c :: rest) →
    d.skip (cs ++ more) = some (c :: (rest ++ more))
  scalar : ∀ {cs v rest}, d.scalar cs = some (v, rest) →
    cs ≠ [] ∧ d.scalar (cs ++ more) = some (v, rest ++ more)
  key : ∀ {cs k rest}, d.key cs = some (k, rest) →
    cs ≠ [] ∧ d.key (cs ++ more) = some (k, rest ++ more)

/-- What is read in so many steps is also read when more follows, in as many steps or more. -/
structure Continues (d : Dialect) (more : List Char) (fuel : Nat) : Prop where
  value : ∀ {room cs v rest}, d.readValue fuel room cs = some (v, rest) →
    cs ≠ [] ∧ ∀ fuel', fuel ≤ fuel' → d.readValue fuel' room (cs ++ more) = some (v, rest ++ more)
  items : ∀ {room cs items rest}, d.readItems fuel room cs = some (items, rest) →
    cs ≠ [] ∧ ∀ fuel', fuel ≤ fuel' →
      d.readItems fuel' room (cs ++ more) = some (items, rest ++ more)
  members : ∀ {room members cs all rest}, d.readMembers fuel room members cs = some (all, rest) →
    cs ≠ [] ∧ ∀ fuel', fuel ≤ fuel' →
      d.readMembers fuel' room members (cs ++ more) = some (all, rest ++ more)

section
variable {d : Dialect} {more : List Char} (hd : d.Continued more) {fuel : Nat}
  (ih : d.Continues more fuel)
include hd ih

theorem readItems_append {room : Nat} {cs : List Char} {items : List Json} {rest : List Char}
    (h : d.readItems (fuel + 1) room cs = some (items, rest)) :
    cs ≠ [] ∧ ∀ fuel', fuel + 1 ≤ fuel' →
      d.readItems fuel' room (cs ++ more) = some (items, rest ++ more) := by
  rw [readItems] at h
  simp only [Option.bind_eq_bind, Option.bind_eq_some_iff] at h
  obtain ⟨⟨item, after⟩, hitem, start, hstart, h⟩ := h
  obtain ⟨hne, hitem'⟩ := ih.value hitem
  refine ⟨hne, fun fuel' hfuel => ?_⟩
  obtain ⟨extra, rfl⟩ := Nat.exists_eq_add_of_le' hfuel
  have hless : fuel ≤ extra + fuel := Nat.le_add_left _ _
  rw [← Nat.add_assoc, readItems, hitem' _ hless, Option.bind_eq_bind, Option.bind_some]
  dsimp only at h hstart ⊢
  split at h
  · cases h
    rw [hd.skip hstart]
    rfl
  · rw [hd.comma] at h ⊢
    simp only [Option.bind_eq_some_iff] at h
    obtain ⟨next, hnext, ⟨others, last⟩, hothers, h⟩ := h
    cases h
    obtain ⟨hnext', hothers'⟩ := ih.items hothers
    obtain ⟨c, next, rfl⟩ := List.exists_cons_of_ne_nil hnext'
    rw [hd.skip hstart, Option.bind_eq_bind, Option.bind_some]
    simp only [hd.skip hnext, Option.bind_some]
    rw [← List.cons_append, hothers' _ hless]
    rfl
  · cases h

theorem readMembers_append {room : Nat} {members : Members} {cs : List Char} {all : Members}
    {rest : List Char} (h : d.readMembers (fuel + 1) room members cs = some (all, rest)) :
    cs ≠ [] ∧ ∀ fuel', fuel + 1 ≤ fuel' →
      d.readMembers fuel' room members (cs ++ more) = some (all, rest ++ more) := by
  rw [readMembers] at h
  simp only [Option.bind_eq_bind, Option.bind_eq_some_iff] at h
  obtain ⟨⟨key, after⟩, hkey, start, hstart, h⟩ := h
  obtain ⟨hne, hkey'⟩ := hd.key hkey
  refine ⟨hne, fun fuel' hfuel => ?_⟩
  obtain ⟨extra, rfl⟩ := Nat.exists_eq_add_of_le' hfuel
  have hless : fuel ≤ extra + fuel := Nat.le_add_left _ _
  rw [← Nat.add_assoc, readMembers, hkey', Option.bind_eq_bind, Option.bind_some]
  dsimp only at h hstart ⊢
  split at h
  · simp only [Option.bind_eq_some_iff] at h
    obtain ⟨front, hfront, ⟨value, behind⟩, hvalue, mark, hmark, h⟩ := h
    obtain ⟨hfront', hvalue'⟩ := ih.value hvalue
    obtain ⟨c, front, rfl⟩ := List.exists_cons_of_ne_nil hfront'
    rw [hd.skip hstart, Option.bind_eq_bind, Option.bind_some]
    simp only [hd.skip hfront, Option.bind_eq_bind, Option.bind_some]
    rw [← List.cons_append, hvalue' _ hless, Option.bind_some]
    dsimp only at h hmark ⊢
    split at h
    · cases h
      rw [hd.skip hmark]
      rfl
    · rw [hd.comma] at h ⊢
      simp only [Option.bind_eq_some_iff] at h
      obtain ⟨next, hnext, hothers⟩ := h
      obtain ⟨hnext', hothers'⟩ := ih.members hothers
      obtain ⟨c, next, rfl⟩ := List.exists_cons_of_ne_nil hnext'
      rw [hd.skip hmark, Option.bind_some]
      simp only [hd.skip hnext, Option.bind_some]
      rw [← List.cons_append, hothers' _ hless]
    · cases h
  · cases h

theorem readValue_append {room : Nat} {cs : List Char} {v : Json} {rest : List Char}
    (h : d.readValue (fuel + 1) room cs = some (v, rest)) :
    cs ≠ [] ∧ ∀ fuel', fuel + 1 ≤ fuel' →
      d.readValue fuel' room (cs ++ more) = some (v, rest ++ more) := by
  unfold readValue at h
  split at h
  · contradiction
  · next hfuel =>
    cases hfuel
    refine ⟨List.cons_ne_nil _ _, fun fuel' hfuel => ?_⟩
    obtain ⟨extra, rfl⟩ := Nat.exists_eq_add_of_le' hfuel
    have hless : fuel ≤ extra + fuel := Nat.le_add_left _ _
    simp only [← Nat.add_assoc, List.cons_append, readValue]
    split at h
    · cases h
    · simp only [Option.bind_eq_bind, Option.bind_eq_some_iff] at h
      obtain ⟨start, hstart, h⟩ := h
      split at h
      · cases h
        rw [hd.skip hstart]
        rfl
      · next hopen =>
        simp only [Option.bind_eq_some_iff] at h
        obtain ⟨⟨items, after⟩, hitems, h⟩ := h
        cases h
        obtain ⟨hstart', hitems'⟩ := ih.items hitems
        obtain ⟨c, start, rfl⟩ := List.exists_cons_of_ne_nil hstart'
        rw [hd.skip hstart, Option.bind_eq_bind, Option.bind_some]
        -- the container is not empty, whatever follows
        split
        · next hclose => exact absurd (by rw [(List.cons.inj hclose).1]) (hopen start)
        · rw [← List.cons_append, hitems' _ hless]
          rfl
  · next hfuel =>
    cases hfuel
    refine ⟨List.cons_ne_nil _ _, fun fuel' hfuel => ?_⟩
    obtain ⟨extra, rfl⟩ := Nat.exists_eq_add_of_le' hfuel
    have hless : fuel ≤ extra + fuel := Nat.le_add_left _ _
    simp only [← Nat.add_assoc, List.cons_append, readValue]
    split at h
    · cases h
    · simp only [Option.bind_eq_bind, Option.bind_eq_some_iff] at h
      obtain ⟨start, hstart, h⟩ := h
      split at h
      · cases h
        rw [hd.skip hstart]
        rfl
      · next hopen =>
        simp only [Option.bind_eq_some_iff] at h
        obtain ⟨⟨members, after⟩, hmembers, h⟩ := h
        cases h
        obtain ⟨hstart', hmembers'⟩ := ih.members hmembers
        obtain ⟨c, start, rfl⟩ := List.exists_cons_of_ne_nil hstart'
        rw [hd.skip hstart, Option.bind_eq_bind, Option.bind_some]
        split
        · next hclose => exact absurd (by rw [(List.cons.inj hclose).1]) (hopen start)
        · rw [← List.cons_append, hmembers' _ hless]
          rfl
  · next harray hobject =>
    obtain ⟨hne, hscalar⟩ := hd.scalar h
    refine ⟨hne, fun fuel' hfuel => ?_⟩
    obtain ⟨extra, rfl⟩ := Nat.exists_eq_add_of_le' hfuel
    obtain ⟨c, cs, rfl⟩ := List.exists_cons_of_ne_nil hne
    rw [← Nat.add_assoc, List.cons_append, readValue]
    · exact hscalar
    · exact fun _ hcs => harray cs (by rw [(List.cons.inj hcs).1])
    · exact fun _ hcs => hobject cs (by rw [(List.cons.inj hcs).1])

end

theorem continues {d : Dialect} {more : List Char} (hd : d.Continued more) (fuel : Nat) :
    d.Continues more fuel := by
  induction fuel with
  | zero =>
    refine ⟨fun h => ?_, fun h => ?_, fun h => ?_⟩
    · rw [readValue] at h; cases h
    · rw [readItems] at h; cases h
    · rw [readMembers] at h; cases h
  | succ fuel ih => exact ⟨readValue_append hd ih, readItems_append hd ih, readMembers_append hd ih⟩

end Dialect

/-! ## Strict JSON -/

namespace Json

theorem strict_skip (cs : List Char) : strict.skip cs = some (cs.dropWhile isSpace) := rfl

theorem dropWhile_isSpace_append {cs : List Char} {c : Char} {rest : List Char}
    (h : cs.dropWhile isSpace = c :: rest) (more : List Char) :
    (cs ++ more).dropWhile isSpace = c :: (rest ++ more) := by
  rw [List.dropWhile_append, h]
  rfl

/-- Strict JSON is read the same when it goes on behind a blank. -/
theorem strict_continued {more : List Char} (hmore : StartsBlank more) : strict.Continued more where
  comma := rfl
  skip h := congrArg some (dropWhile_isSpace_append (Option.some.inj h) more)
  scalar := takeScalar_append hmore
  key := takeKey_append more

/-- A text that is strict JSON is a value, and spaces behind it. -/
theorem read?_eq_some {s : String} {v : Json} (h : Json.read? s = some v) :
    ∃ rest, strict.readValue (2 * s.toList.length + 2) depthLimit (s.toList.dropWhile isSpace) =
      some (v, rest) ∧ ∀ c ∈ rest, isSpace c = true := by
  simp only [Json.read?, Dialect.read?, strict_skip, Option.bind_eq_bind, Option.bind_some,
    Option.bind_eq_some_iff] at h
  obtain ⟨⟨value, rest⟩, hvalue, h⟩ := h
  dsimp only at h
  split at h
  · next hrest =>
    cases h
    exact ⟨rest, hvalue, List.dropWhile_eq_nil_iff.mp hrest⟩
  · cases h

/-- No value begins with a blank. -/
theorem takeScalar_of_isBlank {c : Char} (hc : isBlank c = true) (cs : List Char) :
    takeScalar (c :: cs) = none := by
  have hquote : c ≠ '"' := ne_of_isBlank hc rfl
  have hminus : c ≠ '-' := ne_of_isBlank hc rfl
  have ht : c ≠ 't' := ne_of_isBlank hc rfl
  have hf : c ≠ 'f' := ne_of_isBlank hc rfl
  have hn : c ≠ 'n' := ne_of_isBlank hc rfl
  have hdigits : takeDigits (c :: cs) = ([], c :: cs) := by
    simp [takeDigits, isDigit_of_isBlank hc]
  simp [takeScalar, hquote, hminus, ht, hf, hn, takeUnsigned_eq, hdigits, isWhole]

theorem readValue_of_isBlank {c : Char} (hc : isBlank c = true) (fuel room : Nat)
    (cs : List Char) : strict.readValue fuel room (c :: cs) = none := by
  cases fuel with
  | zero => rw [Dialect.readValue]
  | succ fuel =>
    have harray : c ≠ '[' := ne_of_isBlank hc rfl
    have hobject : c ≠ '\x7b' := ne_of_isBlank hc rfl
    rw [Dialect.readValue]
    · exact takeScalar_of_isBlank hc cs
    · exact fun _ hcs => harray (List.cons.inj hcs).1
    · exact fun _ hcs => hobject (List.cons.inj hcs).1

/-- Blanks in front of a text are spaces that make no difference, or no value can be read. -/
theorem readValue_blank_append {blank : List Char} (hblank : ∀ c ∈ blank, isBlank c = true)
    (fuel room : Nat) (cs : List Char) :
    strict.readValue fuel room ((blank ++ cs).dropWhile isSpace) = none ∨
      (blank ++ cs).dropWhile isSpace = cs.dropWhile isSpace := by
  induction blank with
  | nil => exact .inr rfl
  | cons c blank ih =>
    obtain ⟨hc, hblank⟩ := List.forall_mem_cons.mp hblank
    rw [List.cons_append, List.dropWhile_cons]
    split_ifs
    · exact ih hblank
    · exact .inl (readValue_of_isBlank hc fuel room _)

/-- **Text that begins with a value, and goes on behind a blank with something that is not blank,
is not strict JSON.** -/
theorem read?_append_eq_none {s text : String} {v : Json} {before more : List Char}
    (hread : Json.read? s = some v) (hbefore : ∀ c ∈ before, isBlank c = true)
    (hmore : StartsBlank more) (hrest : ∃ c ∈ more, isBlank c = false)
    (htext : text.toList = before ++ (s.toList ++ more)) : Json.read? text = none := by
  simp only [Json.read?, Dialect.read?, strict_skip, Option.bind_eq_bind, Option.bind_some]
  rw [htext]
  rcases readValue_blank_append hbefore (2 * (before ++ (s.toList ++ more)).length + 2) depthLimit
    (s.toList ++ more) with hnone | hskip
  · rw [hnone]
    rfl
  obtain ⟨rest, hvalue, hspace⟩ := read?_eq_some hread
  obtain ⟨hne, hvalue'⟩ := (Dialect.continues (strict_continued hmore) _).value hvalue
  obtain ⟨c, start, hstart⟩ := List.exists_cons_of_ne_nil hne
  have hless : 2 * s.toList.length + 2 ≤ 2 * (before ++ (s.toList ++ more)).length + 2 := by
    simp only [List.length_append]
    omega
  rw [hskip, dropWhile_isSpace_append hstart, ← List.cons_append, ← hstart, hvalue' _ hless,
    Option.bind_some]
  -- behind the value, spaces are skipped, and then something is left
  obtain ⟨d, hd, hdblank⟩ := hrest
  have hleft : (rest ++ more).dropWhile isSpace ≠ [] := by
    intro hnil
    have hspace := List.dropWhile_eq_nil_iff.mp hnil d (List.mem_append_right rest hd)
    rw [isBlank_of_isSpace hspace] at hdblank
    cases hdblank
  obtain ⟨e, left, hleft⟩ := List.exists_cons_of_ne_nil hleft
  dsimp only
  rw [hleft]

end Json

end DocFilter
