/-
Symbolic cryptography: terms, what an attacker derives, and two rules.

The byte strings of an idealised protocol are terms.  `data` is public, a `name` is a
value that nobody can guess (a key, a seed or random coins), and the other constructors
are the outputs of the primitives: authenticated encryption with associated data, a key
encapsulation mechanism with implicit rejection, and a key derivation function.
`Derives K t` says that an attacker who has seen the terms `K` can compute `t`.

Let `hidden` be the names that the attacker does not own.

* `safe_of_derives`: a term is safe when it gives no hidden name and no key made from
  one away; from safe terms only safe terms are derived.
* `sealed_of_derives`: an encryption under a key that is not safe is derived only if it
  was seen.
-/
import Mathlib

namespace Symbolic

/-- Byte strings, over the public data `α` and the names `ν`. -/
inductive Term (α ν : Type) where
  | data (a : α)
  | name (n : ν)
  /-- the public key of a private key -/
  | pub (sk : Term α ν)
  /-- the ciphertext of an encapsulation to a public key, with the given coins -/
  | ct (pk coins : Term α ν)
  /-- the shared secret of the same encapsulation -/
  | ss (pk coins : Term α ν)
  /-- what decapsulating a ciphertext of somebody else gives -/
  | reject (sk ciphertext : Term α ν)
  | kdf (secret : Term α ν)
  | aead (key nonce plaintext aad : Term α ν)
deriving DecidableEq

open Term

variable {α ν : Type}

/-- What an attacker computes from the terms `K`. -/
inductive Derives (K : Set (Term α ν)) : Term α ν → Prop
  | seen {t} : t ∈ K → Derives K t
  | data (a) : Derives K (data a)
  | pub {sk} : Derives K sk → Derives K (pub sk)
  | ct {pk r} : Derives K pk → Derives K r → Derives K (ct pk r)
  | ss {pk r} : Derives K pk → Derives K r → Derives K (ss pk r)
  | decaps {sk r} : Derives K sk → Derives K (ct (pub sk) r) → Derives K (ss (pub sk) r)
  | reject {sk c} : Derives K sk → Derives K c → Derives K (reject sk c)
  | kdf {s} : Derives K s → Derives K (kdf s)
  | encrypt {k n p a} : Derives K k → Derives K n → Derives K p → Derives K a →
      Derives K (aead k n p a)
  | decrypt {k n p a} : Derives K (aead k n p a) → Derives K k → Derives K p

lemma Derives.mono {K K' : Set (Term α ν)} {t : Term α ν} (h : Derives K t) (hK : K ⊆ K') :
    Derives K' t := by
  induction h with
  | seen h => exact .seen (hK h)
  | data a => exact .data a
  | pub _ ih => exact .pub ih
  | ct _ _ ih₁ ih₂ => exact .ct ih₁ ih₂
  | ss _ _ ih₁ ih₂ => exact .ss ih₁ ih₂
  | decaps _ _ ih₁ ih₂ => exact .decaps ih₁ ih₂
  | reject _ _ ih₁ ih₂ => exact .reject ih₁ ih₂
  | kdf _ ih => exact .kdf ih
  | encrypt _ _ _ _ ih₁ ih₂ ih₃ ih₄ => exact .encrypt ih₁ ih₂ ih₃ ih₄
  | decrypt _ _ ih₁ ih₂ => exact .decrypt ih₁ ih₂

/-! ### Secrecy -/

section Safe

variable (hidden : ν → Prop)

/-- A term that gives no hidden name, and no key made from one, away.  A shared secret
is given away by its coins or by the private key, an encryption gives its plaintext
away to those who have its key. -/
def Safe : Term α ν → Prop
  | data _ => True
  | name n => ¬ hidden n
  | pub _ => True
  | ct _ _ => True
  | ss (pub sk) r => Safe sk ∨ Safe r
  | ss _ r => Safe r
  | reject sk _ => Safe sk
  | kdf s => Safe s
  | aead k _ p _ => Safe k → Safe p

@[simp] lemma safe_data (a : α) : Safe hidden (data a : Term α ν) := trivial

@[simp] lemma safe_name {n : ν} : Safe hidden (name n : Term α ν) ↔ ¬ hidden n := Iff.rfl

@[simp] lemma safe_pub (sk : Term α ν) : Safe hidden (pub sk) := trivial

@[simp] lemma safe_ct (pk r : Term α ν) : Safe hidden (ct pk r) := trivial

@[simp] lemma safe_ss_pub {sk r : Term α ν} :
    Safe hidden (ss (pub sk) r) ↔ Safe hidden sk ∨ Safe hidden r := Iff.rfl

@[simp] lemma safe_reject {sk c : Term α ν} : Safe hidden (reject sk c) ↔ Safe hidden sk := Iff.rfl

@[simp] lemma safe_kdf {s : Term α ν} : Safe hidden (kdf s) ↔ Safe hidden s := Iff.rfl

@[simp] lemma safe_aead {k n p a : Term α ν} :
    Safe hidden (aead k n p a) ↔ (Safe hidden k → Safe hidden p) := Iff.rfl

variable {hidden}

lemma safe_ss_of_coins {pk r : Term α ν} (h : Safe hidden r) : Safe hidden (ss pk r) := by
  cases pk with
  | pub sk => exact Or.inr h
  | _ => exact h

/-- **Secrecy.**  From safe terms only safe terms are derived. -/
theorem safe_of_derives {K : Set (Term α ν)} {t : Term α ν} (hK : ∀ t ∈ K, Safe hidden t)
    (h : Derives K t) : Safe hidden t := by
  induction h with
  | seen h => exact hK _ h
  | data a => trivial
  | pub _ _ => trivial
  | ct _ _ _ _ => trivial
  | ss _ _ _ ih => exact safe_ss_of_coins ih
  | decaps _ _ ih _ => exact Or.inl ih
  | reject _ _ ih _ => exact ih
  | kdf _ ih => exact ih
  | encrypt _ _ _ _ _ _ ih _ => exact fun _ => ih
  | decrypt _ _ ih₁ ih₂ => exact ih₁ ih₂

end Safe

/-! ### Authenticity -/

section Sealed

variable (hidden : ν → Prop) (L : Set (Term α ν))

/-- Every encryption that can be opened out of the term, and is under a key that is not
safe, is in `L`. -/
def Sealed : Term α ν → Prop
  | aead k n p a => (Safe hidden k ∨ aead k n p a ∈ L) ∧ Sealed p
  | _ => True

variable {hidden L}

/-- **Authenticity.**  An encryption under a key that is not safe is not made by the
attacker: it is one of the encryptions in what it has seen. -/
theorem sealed_of_derives {K : Set (Term α ν)} {t : Term α ν}
    (hK : ∀ t ∈ K, Safe hidden t ∧ Sealed hidden L t) (h : Derives K t) :
    Sealed hidden L t := by
  induction h with
  | seen h => exact (hK _ h).2
  | data a => trivial
  | pub _ _ => trivial
  | ct _ _ _ _ => trivial
  | ss _ _ _ _ => trivial
  | decaps _ _ _ _ => trivial
  | reject _ _ _ _ => trivial
  | kdf _ _ => trivial
  | encrypt hk _ _ _ _ _ ihp _ =>
      exact ⟨Or.inl (safe_of_derives (fun t ht => (hK t ht).1) hk), ihp⟩
  | decrypt _ _ ih _ => exact ih.2

end Sealed

end Symbolic
