/-!
# JSON values

A JSON document as data. Numbers keep how they were written: an integer of 64 bits, signed or
unsigned, or a float. Objects keep the order in which their keys first appeared, and a key occurs
once. `Json.same` compares two values as they are held: the order of keys does not matter, the
form of numbers does.
-/

namespace DocFilter

/-- A JSON number, in the form in which it was written. -/
inductive JsonNumber where
  | int (value : Int)
  | float (value : Float)
  deriving Repr, Inhabited

namespace JsonNumber

/-- The least integer that is kept as an integer. -/
def leastInt : Int := -0x8000000000000000

/-- The first integer that is too great to be kept as an integer. -/
def intBound : Int := 0x10000000000000000

/-- The float nearest to the number. -/
def toFloat : JsonNumber → Float
  | int i => Float.ofInt i
  | float x => x

/-- Whether two numbers are held alike: an integer is never the same as a float. -/
def same : JsonNumber → JsonNumber → Bool
  | int i, int j => i == j
  | float x, float y => x == y
  | _, _ => false

end JsonNumber

/-- A JSON value. -/
inductive Json where
  | null
  | bool (value : Bool)
  | number (value : JsonNumber)
  | string (text : String)
  | array (items : List Json)
  | object (members : List (String × Json))
  deriving Repr, Inhabited

/-- The members of an object, in order. -/
abbrev Members := List (String × Json)

namespace Members

/-- The value of a key. -/
def get? (members : Members) (key : String) : Option Json :=
  match members with
  | [] => none
  | (k, v) :: rest => if k = key then some v else get? rest key

/-- Sets a key: a key that is there keeps its place, a new one goes to the end. -/
def put (members : Members) (key : String) (value : Json) : Members :=
  match members with
  | [] => [(key, value)]
  | (k, v) :: rest => if k = key then (k, value) :: rest else (k, v) :: put rest key value

/-- The keys, in order. -/
def keys (members : Members) : List String :=
  members.map (·.1)

theorem get?_put (members : Members) (key other : String) (value : Json) :
    (members.put key value).get? other =
      if key = other then some value else members.get? other := by
  induction members with
  | nil => simp [put, get?]
  | cons m rest ih =>
    obtain ⟨k, v⟩ := m
    by_cases hk : k = key
    · subst hk
      by_cases ho : k = other <;> simp [put, get?, ho]
    · by_cases ho : k = other
      · subst ho
        have hne : ¬ key = k := fun h => hk h.symm
        simp [put, get?, hk, hne]
      · simp [put, get?, hk, ho, ih]

theorem keys_cons (key : String) (value : Json) (rest : Members) :
    Members.keys ((key, value) :: rest) = key :: rest.keys := rfl

/-- Setting a key adds it to the keys only when it is new, and then as the last one. -/
theorem keys_put (members : Members) (key : String) (value : Json) :
    (members.put key value).keys =
      if key ∈ members.keys then members.keys else members.keys ++ [key] := by
  induction members with
  | nil => simp [put, keys]
  | cons m rest ih =>
    obtain ⟨k, v⟩ := m
    by_cases hk : k = key
    · subst hk
      simp [put, keys_cons]
    · have hne : ¬ key = k := fun h => hk h.symm
      rw [put, if_neg hk, keys_cons, keys_cons, ih]
      by_cases h : key ∈ keys rest <;> simp [h, hne]

end Members

namespace Json

/-- Whether the value is an array or an object. -/
def isContainer : Json → Bool
  | array _ | object _ => true
  | _ => false

/-- Induction on a value: what a container inherits from the values in it, every value has. -/
theorem induct {P : Json → Prop} (scalar : ∀ v, v.isContainer = false → P v)
    (array : ∀ items, (∀ item ∈ items, P item) → P (.array items))
    (object : ∀ members, (∀ m ∈ members, P m.2) → P (.object members)) (v : Json) : P v :=
  @Json.rec P (fun items => ∀ item ∈ items, P item) (fun members => ∀ m ∈ members, P m.2)
    (fun m => P m.2) (scalar _ rfl) (fun _ => scalar _ rfl) (fun _ => scalar _ rfl)
    (fun _ => scalar _ rfl) array object
    (List.forall_mem_nil _) (fun _ _ hitem hitems => List.forall_mem_cons.mpr ⟨hitem, hitems⟩)
    (List.forall_mem_nil _) (fun _ _ hm hms => List.forall_mem_cons.mpr ⟨hm, hms⟩)
    (fun _ _ hv => hv) v

mutual

/-- Whether two values are held alike, but for the order of keys. -/
def same : Json → Json → Bool
  | null, null => true
  | bool a, bool b => a == b
  | number a, number b => a.same b
  | string a, string b => a == b
  | array xs, array ys => sameItems xs ys
  | object ms, object ns => ms.length == ns.length && sameMembers ms ns
  | _, _ => false
termination_by structural v => v

/-- Whether two lists of values are held alike, place by place. -/
def sameItems : List Json → List Json → Bool
  | [], [] => true
  | x :: xs, y :: ys => x.same y && sameItems xs ys
  | _, _ => false
termination_by structural xs => xs

/-- Whether every member has its like among `others`. -/
def sameMembers : List (String × Json) → Members → Bool
  | [], _ => true
  | (key, value) :: rest, others =>
    (match others.get? key with
      | some other => value.same other
      | none => false) && sameMembers rest others
termination_by structural ms => ms

end

end Json

end DocFilter
