import ApiLint.Double
import ApiLint.Pointer

/-!
# Document values

A description of an API, and every setting, is one value: null, a truth value, a number, a string,
a list of values, or an object whose keys keep the order in which they first came.

## Main definitions

* `Number`, `Number.text`: whole numbers and doubles, and how they are written.
* `Value`: the values.
* `Entries.get?`, `Entries.insert`, `Entries.merge`: the entries of an object, by key.
* `Value.field?`, `Value.child?`, `Value.resolve?`: from a value to what it holds.
-/

namespace ApiLint

/-- A number of a document: a whole number that 64 bits hold, or a finite double. -/
inductive Number where
  | int (n : Int)
  | float (x : Double)
deriving DecidableEq, Repr, Inhabited

/-- A whole number as a number of a document, if 64 bits hold it, with a sign or without. -/
def Number.ofInt? (n : Int) : Option Number :=
  if -0x8000000000000000 ≤ n ∧ n < 0x10000000000000000 then some (.int n) else none

/-- How a number is written: a whole number by its digits alone, a double so that it reads back as
the same double and never as a whole number. -/
def Number.text : Number → String
  | .int n => toString n
  | .float x => x.text .document

/-- A value of a document. -/
inductive Value where
  | null
  | bool (b : Bool)
  | number (n : Number)
  | string (s : String)
  | array (items : List Value)
  | object (entries : List (String × Value))
deriving Inhabited, Repr

/-- The entries of an object, in order. -/
abbrev Entries := List (String × Value)

namespace Entries

/-- The value at a key. -/
def get? (entries : Entries) (key : String) : Option Value :=
  entries.lookup key

/-- Gives a key a value: a key that is there keeps its place, a new one comes last. -/
def insert (entries : Entries) (key : String) (value : Value) : Entries :=
  match entries with
  | [] => [(key, value)]
  | (k, v) :: rest => if k = key then (k, value) :: rest else (k, v) :: insert rest key value

/-- **Shallow merge**: all entries of `upper`, one after the other, put over those of `lower`. -/
def merge (lower upper : Entries) : Entries :=
  upper.foldl (fun entries (key, value) => entries.insert key value) lower

end Entries

namespace Value

mutual

/-- Whether two values are the same. -/
def isSame : Value → Value → Bool
  | .null, .null => true
  | .bool a, .bool b => a == b
  | .number m, .number n => m == n
  | .string s, .string t => s == t
  | .array items, .array others => areSame items others
  | .object entries, .object others => areSameEntries entries others
  | _, _ => false

/-- Whether two lists hold the same values. -/
def areSame : List Value → List Value → Bool
  | [], [] => true
  | a :: items, b :: others => isSame a b && areSame items others
  | _, _ => false

/-- Whether two objects have the same entries, in the same order. -/
def areSameEntries : List (String × Value) → List (String × Value) → Bool
  | [], [] => true
  | (key, a) :: entries, (other, b) :: others =>
    key == other && isSame a b && areSameEntries entries others
  | _, _ => false

end

mutual

theorem isSame_iff : ∀ a b : Value, isSame a b ↔ a = b
  | .null, b => by cases b <;> simp [isSame]
  | .bool a, b => by cases b <;> simp [isSame]
  | .number a, b => by cases b <;> simp [isSame]
  | .string a, b => by cases b <;> simp [isSame]
  | .array items, b => by cases b <;> simp [isSame, areSame_iff items]
  | .object entries, b => by cases b <;> simp [isSame, areSameEntries_iff entries]

theorem areSame_iff : ∀ items others : List Value, areSame items others ↔ items = others
  | [], others => by cases others <;> simp [areSame]
  | a :: items, others => by cases others <;> simp [areSame, isSame_iff a, areSame_iff items]

theorem areSameEntries_iff :
    ∀ entries others : List (String × Value), areSameEntries entries others ↔ entries = others
  | [], others => by cases others <;> simp [areSameEntries]
  | (key, a) :: entries, others => by
    cases others <;> simp [areSameEntries, isSame_iff a, areSameEntries_iff entries, Prod.ext_iff]

end

instance : DecidableEq Value :=
  fun a b => decidable_of_iff _ (isSame_iff a b)

/-- The object with the given entries, of which a repeated key keeps its first place and takes its
last value. -/
def ofEntries (entries : Entries) : Value :=
  .object (Entries.merge [] entries)

/-- The value at a key, of an object that has it. -/
def field? (value : Value) (key : String) : Option Value :=
  match value with
  | .object entries => Entries.get? entries key
  | _ => none

/-- What an object has at a key is smaller than the object. -/
theorem sizeOf_lt_of_field? {value found : Value} {key : String}
    (h : value.field? key = some found) : sizeOf found < sizeOf value := by
  match value, h with
  | .object entries, h =>
    have hmem : (key, found) ∈ entries := by
      simp only [field?, Entries.get?] at h
      induction entries with
      | nil => simp at h
      | cons entry rest ih =>
        obtain ⟨k, v⟩ := entry
        rw [List.lookup_cons] at h
        split at h
        · simp_all
        · exact List.mem_cons_of_mem _ (ih h)
    have := List.sizeOf_lt_of_mem hmem
    simp only [Prod.mk.sizeOf_spec] at this
    simp only [Value.object.sizeOf_spec]
    omega

/-- One step down: by key into an object, by index into an array. -/
def child? (value : Value) (token : String) : Option Value :=
  match value with
  | .object entries => Entries.get? entries token
  | .array items => (Pointer.index? token).bind (items[·]?)
  | _ => none

/-- Step by step down along tokens. -/
def descend? (value : Value) : List String → Option Value
  | [] => some value
  | token :: rest => (value.child? token).bind (·.descend? rest)

/-- **The value a pointer leads to.**  The empty pointer is the value itself, and any other one
begins with a slash. -/
def resolve? (value : Value) (pointer : String) : Option Value :=
  (Pointer.steps? pointer).bind fun steps => value.descend? (steps.map Pointer.unescape)

/-- What kind of value it is, as a sentence names it. -/
def kind : Value → String
  | .null => "null"
  | .bool _ => "a boolean"
  | .number _ => "a number"
  | .string _ => "a string"
  | .array _ => "a list"
  | .object _ => "a table"

end Value

end ApiLint
