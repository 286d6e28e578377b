/-
The Python values the program handles: strings, the values that `json.loads`
returns, dictionary keys and exceptions.

A Python string is a sequence of code points that may contain lone surrogates, which
Lean's `String` cannot hold; `json.loads` produces them from an escape such as
`"\ud800"`, and encoding them as UTF-8 is an error.  Hence `PyStr` is a list of
`PyChar`s.

Dictionary keys are compared by value across the number types (`1 == 1.0 == True`),
and lists and dictionaries cannot be keys at all: `Json.hashKey` maps a value to what
a dictionary compares, and raises `TypeError` where Python does.
-/
import Mathlib

namespace Python

/-! ### Strings -/

/-- A code point of a Python string: a Unicode scalar value or a lone surrogate,
numbered from `U+D800`. -/
inductive PyChar where
  | char (c : Char)
  | surrogate (u : Fin 2048)
deriving DecidableEq, Repr

/-- A Python string. -/
abbrev PyStr : Type := List PyChar

instance instLawfulBEqPyStr : LawfulBEq PyStr := inferInstance

/-- A string literal of the source. -/
def lit (s : String) : PyStr := s.toList.map PyChar.char

/-- Whether a code point can be encoded as UTF-8. -/
def PyChar.isScalar : PyChar → Bool
  | .char _ => true
  | .surrogate _ => false

/-- Whether a string can be encoded as UTF-8. -/
def validUnicode (s : PyStr) : Bool := s.all PyChar.isScalar

/-- Whether a code point is ASCII. -/
def PyChar.isAscii : PyChar → Bool
  | .char c => c.toNat < 128
  | .surrogate _ => false

/-- `str.isascii`. -/
def isAscii (s : PyStr) : Bool := s.all PyChar.isAscii

/-- `str(n)` of an integer, and its `%d` conversion. -/
def decimal (n : ℤ) : PyStr := lit (toString n)

@[simp] lemma validUnicode_lit (s : String) : validUnicode (lit s) = true := by
  simp [validUnicode, lit, PyChar.isScalar]

@[simp] lemma validUnicode_append (s t : PyStr) :
    validUnicode (s ++ t) = (validUnicode s && validUnicode t) := by
  simp [validUnicode]

@[simp] lemma isAscii_char (c : Char) : (PyChar.char c).isAscii = decide (c.toNat < 128) := rfl

@[simp] lemma isAscii_nil : isAscii [] = true := rfl

@[simp] lemma isAscii_cons (c : PyChar) (s : PyStr) :
    isAscii (c :: s) = (c.isAscii && isAscii s) := rfl

@[simp] lemma isAscii_append (s t : PyStr) : isAscii (s ++ t) = (isAscii s && isAscii t) := by
  simp [isAscii]

lemma isAscii_flatMap {f : PyChar → PyStr} (h : ∀ c, isAscii (f c) = true) (s : PyStr) :
    isAscii (s.flatMap f) = true := by
  induction s with
  | nil => rfl
  | cons c s ih => simp [h, ih]

@[simp] lemma validUnicode_decimal (n : ℤ) : validUnicode (decimal n) = true :=
  validUnicode_lit _

lemma lit_injective : Function.Injective lit := fun s t h =>
  String.toList_injective (List.map_injective_iff.2 (fun a b hab => by cases hab; rfl) h)

lemma decimal_injective : Function.Injective decimal := fun _ _ h =>
  Int.repr_injective (lit_injective h)

/-- A decimal number is made of digits and a sign. -/
lemma notMem_decimal {c : Char} (hdigit : c.isDigit = false) (hsign : c ≠ '-') (n : ℤ) :
    PyChar.char c ∉ decimal n := by
  have hrepr : ∀ k : ℕ, c ∉ k.repr.toList := by
    intro k hk
    rw [Nat.toList_repr] at hk
    have htrue := Nat.isDigit_of_mem_toDigits (by decide) (by decide) hk
    rw [hdigit] at htrue
    cases htrue
  intro h
  simp only [decimal, lit, List.mem_map, PyChar.char.injEq, exists_eq_right] at h
  cases n with
  | ofNat k => exact hrepr k h
  | negSucc k =>
    have hneg : (toString (Int.negSucc k)).toList = '-' :: (k + 1).repr.toList := by
      simp [toString, Int.repr]
    rw [hneg, List.mem_cons] at h
    rcases h with h | h
    · exact hsign h
    · exact hrepr _ h

lemma decimal_ne_nil (n : ℤ) : decimal n ≠ [] := by
  rcases n with k | k <;>
    simp [decimal, lit, toString, Int.repr]

/-! ### Exceptions -/

/-- The exception classes that the program raises or catches. -/
inductive ExcClass where
  | protocolError
  | connectionClosedError
  | cryptoError
  | authenticationError
  | legacyDecryptionError
  | mlkemDecapsulationError
  | gatewayProcessingError
  | cloudProcessingError
  | osError
  | typeError
  | attributeError
  | keyError
  | valueError
  | unicodeEncodeError
  | recursionError
deriving DecidableEq, Repr

/-- The direct base class, where it is not `Exception` itself. -/
def ExcClass.base : ExcClass → Option ExcClass
  | .authenticationError => some .cryptoError
  | .legacyDecryptionError => some .cryptoError
  | .mlkemDecapsulationError => some .cryptoError
  | .unicodeEncodeError => some .valueError
  | _ => none

/-- An exception: its class and its message. -/
structure PyExc where
  cls : ExcClass
  msg : PyStr
deriving DecidableEq, Repr

/-- Whether `except c` catches the exception.  No class of the program has a
grandparent below `Exception`. -/
def PyExc.isA (e : PyExc) (c : ExcClass) : Bool := e.cls = c || e.cls.base = some c

/-- A Python computation that may raise. -/
abbrev Py : Type → Type := Except PyExc

/-- `raise cls(msg)`. -/
def raise {α : Type} (cls : ExcClass) (msg : PyStr) : Py α := .error ⟨cls, msg⟩

/-- Whether the computation returned. -/
def returns {α : Type} : Py α → Bool
  | .ok _ => true
  | .error _ => false

/-! ### JSON values -/

/-- A float, by its value.  The two zeros are one value, as they are for `==` and
`hash`. -/
inductive PyFloat where
  | finite (q : Rat)
  | posInf
  | negInf
  | nan
deriving DecidableEq, Repr

/-- The values that `json.loads` returns. -/
inductive Json where
  | null
  | bool (b : Bool)
  | int (n : ℤ)
  | float (x : PyFloat)
  | str (s : PyStr)
  | arr (xs : List Json)
  | obj (fields : List (PyStr × Json))

/-- A dictionary with string keys: `json.loads` keeps one binding for each key, and
the first one counts here. -/
abbrev JsonDict : Type := List (PyStr × Json)

/-- `message.get(field)`. -/
def JsonDict.field (m : JsonDict) (name : String) : Option Json := m.lookup (lit name)

/-- `message[field]`. -/
def JsonDict.item (m : JsonDict) (name : String) : Py Json :=
  match m.field name with
  | some v => .ok v
  | none => raise .keyError (lit name)

/-- `value == s` for a string `s`. -/
def isStr (v : Option Json) (s : PyStr) : Bool :=
  match v with
  | some (.str t) => t = s
  | _ => false

/-- What a dictionary compares when a value is used as a key.  The parser returns one
and the same object for every `NaN`, so that `nan` finds itself. -/
inductive HashKey where
  | none
  | num (q : Rat)
  | posInf
  | negInf
  | nan
  | str (s : PyStr)
deriving DecidableEq, Repr

/-- The dictionary key of a value; lists and dictionaries are unhashable. -/
def Json.hashKey : Json → Py HashKey
  | .null => .ok .none
  | .bool b => .ok (.num (if b then 1 else 0))
  | .int n => .ok (.num n)
  | .float (.finite q) => .ok (.num q)
  | .float .posInf => .ok .posInf
  | .float .negInf => .ok .negInf
  | .float .nan => .ok .nan
  | .str s => .ok (.str s)
  | .arr _ => raise .typeError (lit "unhashable type: 'list'")
  | .obj _ => raise .typeError (lit "unhashable type: 'dict'")

/-- Whether a value can be a dictionary key. -/
def Json.hashable (v : Json) : Bool := returns v.hashKey

end Python
