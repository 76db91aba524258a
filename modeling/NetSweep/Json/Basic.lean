import NetSweep.Assoc

/-!
# JSON values

A number keeps the distinction between whole numbers and 64-bit floats, because the two are
written differently; a float is held as its bit pattern, so that equality of values is decidable
and `-0.0` differs from `0.0`.

The members of an object are an association list.  A value is `Canonical` when, at every depth,
keys ascend strictly; `normalize` brings any value into that form, the last binding of a repeated
key winning.
-/

namespace NetSweep

/-- A JSON number: a whole number, or the bit pattern of a finite 64-bit float. -/
inductive Json.Number where
  | int (value : Int)
  | float (bits : UInt64)
deriving DecidableEq, Repr

inductive Json where
  | null
  | bool (value : Bool)
  | number (value : Json.Number)
  | string (value : String)
  | array (items : List Json)
  | object (members : List (String × Json))
deriving Repr, Inhabited

namespace Json

def int (n : Int) : Json := .number (.int n)

def nat (n : Nat) : Json := .int n

def ofOption {α : Type} (f : α → Json) : Option α → Json
  | none => .null
  | some a => f a

def strings (items : List String) : Json := .array (items.map .string)

/-! ## Equality -/

mutual

def decEq : (a b : Json) → Decidable (a = b)
  | .null, .null => isTrue rfl
  | .bool a, .bool b => decidable_of_iff (a = b) (by simp)
  | .number a, .number b => decidable_of_iff (a = b) (by simp)
  | .string a, .string b => decidable_of_iff (a = b) (by simp)
  | .array a, .array b =>
    match decEqItems a b with
    | isTrue h => isTrue (h ▸ rfl)
    | isFalse h => isFalse (fun e => h (Json.array.inj e))
  | .object a, .object b =>
    match decEqMembers a b with
    | isTrue h => isTrue (h ▸ rfl)
    | isFalse h => isFalse (fun e => h (Json.object.inj e))
  | .null, .bool _ | .null, .number _ | .null, .string _ | .null, .array _ | .null, .object _
  | .bool _, .null | .bool _, .number _ | .bool _, .string _ | .bool _, .array _
  | .bool _, .object _
  | .number _, .null | .number _, .bool _ | .number _, .string _ | .number _, .array _
  | .number _, .object _
  | .string _, .null | .string _, .bool _ | .string _, .number _ | .string _, .array _
  | .string _, .object _
  | .array _, .null | .array _, .bool _ | .array _, .number _ | .array _, .string _
  | .array _, .object _
  | .object _, .null | .object _, .bool _ | .object _, .number _ | .object _, .string _
  | .object _, .array _ => isFalse nofun

def decEqItems : (a b : List Json) → Decidable (a = b)
  | [], [] => isTrue rfl
  | [], _ :: _ | _ :: _, [] => isFalse nofun
  | a :: as, b :: bs =>
    match decEq a b, decEqItems as bs with
    | isTrue h, isTrue hs => isTrue (h ▸ hs ▸ rfl)
    | isFalse h, _ => isFalse (fun e => h (List.cons.inj e).1)
    | _, isFalse hs => isFalse (fun e => hs (List.cons.inj e).2)

def decEqMembers : (a b : List (String × Json)) → Decidable (a = b)
  | [], [] => isTrue rfl
  | [], _ :: _ | _ :: _, [] => isFalse nofun
  | (k, a) :: as, (l, b) :: bs =>
    match decEq a b, decEqMembers as bs with
    | isTrue h, isTrue hs =>
      if hk : k = l then isTrue (hk ▸ h ▸ hs ▸ rfl)
      else isFalse (fun e => hk (Prod.mk.inj (List.cons.inj e).1).1)
    | isFalse h, _ => isFalse (fun e => h (Prod.mk.inj (List.cons.inj e).1).2)
    | _, isFalse hs => isFalse (fun e => hs (List.cons.inj e).2)

end

instance : DecidableEq Json := decEq

/-! ## Views -/

def isNull : Json → Bool
  | .null => true
  | _ => false

def string? : Json → Option String
  | .string s => some s
  | _ => none

def bool? : Json → Option Bool
  | .bool b => some b
  | _ => none

def array? : Json → Option (List Json)
  | .array items => some items
  | _ => none

def object? : Json → Option (List (String × Json))
  | .object members => some members
  | _ => none

/-- A whole number that fits 64 unsigned bits. -/
def nat? : Json → Option Nat
  | .number (.int (.ofNat n)) => if n < Nat.pow 2 64 then some n else none
  | _ => none

/-- The value an object binds to a key; nothing else has members. -/
def get? (key : String) (v : Json) : Option Json := v.object?.bind (Assoc.find? key)

@[simp] theorem get?_object (key : String) (members : List (String × Json)) :
    get? key (.object members) = Assoc.find? key members := rfl

/-! ## Canonical values -/

mutual

/-- The value with the members of every object in ascending key order, the last binding of a
key kept. -/
def normalize : Json → Json
  | .array items => .array (normalizeItems items)
  | .object members => .object (Assoc.ofList (normalizeMembers members))
  | .null => .null
  | .bool b => .bool b
  | .number n => .number n
  | .string s => .string s

def normalizeItems : List Json → List Json
  | [] => []
  | v :: rest => v.normalize :: normalizeItems rest

def normalizeMembers : List (String × Json) → List (String × Json)
  | [] => []
  | (k, v) :: rest => (k, v.normalize) :: normalizeMembers rest

end

mutual

/-- At every depth the keys of an object ascend strictly. -/
def Canonical : Json → Prop
  | .array items => CanonicalItems items
  | .object members => (Assoc.keys members).Pairwise (· < ·) ∧ CanonicalMembers members
  | _ => True

def CanonicalItems : List Json → Prop
  | [] => True
  | v :: rest => v.Canonical ∧ CanonicalItems rest

def CanonicalMembers : List (String × Json) → Prop
  | [] => True
  | (_, v) :: rest => v.Canonical ∧ CanonicalMembers rest

end

/-! ## Mentions -/

mutual

/-- Whether a string occurs in a value as a whole string, at any depth; keys do not count. -/
def mentions (target : String) : Json → Bool
  | .string s => s == target
  | .array items => mentionsItem target items
  | .object members => mentionsMember target members
  | _ => false

def mentionsItem (target : String) : List Json → Bool
  | [] => false
  | v :: rest => v.mentions target || mentionsItem target rest

def mentionsMember (target : String) : List (String × Json) → Bool
  | [] => false
  | (_, v) :: rest => v.mentions target || mentionsMember target rest

end

theorem mentionsMember_eq_any (target : String) (members : List (String × Json)) :
    mentionsMember target members = members.any (fun m => m.2.mentions target) := by
  induction members with
  | nil => rfl
  | cons m rest ih => simp [mentionsMember, ih]

/-! ## Merging -/

/-- One change applied to the members of an object: null removes the key, all else binds it. -/
def mergeMember (members : List (String × Json)) (change : String × Json) :
    List (String × Json) :=
  if change.2.isNull then Assoc.erase change.1 members
  else Assoc.insert change.1 change.2 members

/-- An object with the members of another laid over it, one level deep; a value is left as it is
when either of the two is no object. -/
def merge : Json → Json → Json
  | .object members, .object changes => .object (changes.foldl mergeMember members)
  | current, _ => current

/-! ## Reading records

A record is read from an object, each of its fields bound at most once, or from an array that
holds the fields in order. -/

/-- The fields of a record by position: absent when the object or array does not reach them.
There is no record in a value that is neither, in an object that binds a field twice, or in an
array with more items than there are fields. -/
def fields? (names : List String) : Json → Option (List (Option Json))
  | .object members =>
    if names.all (fun n => (members.filter (fun m => m.1 == n)).length ≤ 1) then
      some (names.map (fun n => Assoc.find? n members))
    else none
  | .array items =>
    if items.length ≤ names.length then
      some ((List.range names.length).map (fun i => items[i]?))
    else none
  | _ => none

def stringOr? (default : String) : Option Json → Option String
  | none => some default
  | some v => v.string?

def optString? : Option Json → Option (Option String)
  | none | some .null => some none
  | some (.string s) => some (some s)
  | some _ => none

/-- The name of a constant alternative: a string, or an object whose one member binds the name
to null. -/
def constantName? : Json → Option String
  | .string s => some s
  | .object [(name, .null)] => some name
  | _ => none

end Json

end NetSweep
