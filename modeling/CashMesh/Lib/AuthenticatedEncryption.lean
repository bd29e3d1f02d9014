import Mathlib.Data.Set.Function
/-!
# Authenticated encryption

Encryption with associated data, and what it means for it to be ideal: relative to the sealings that
have taken place, a box opens under the key, the nonce and the data it was sealed with and under no
others, what was never sealed does not open, and no two sealings give the same box.

The data are a byte string that several components are written into. A terminator that does not occur in
a component marks its end, so that the components can be told apart again.
-/

namespace CashMesh.Lib

/-- Encryption with associated data. -/
structure Aead (Key Nonce Data Text Body Tag : Type) where
  encrypt : Key → Nonce → Data → Text → Body × Tag
  decrypt : Key → Nonce → Data → Body → Tag → Option Text

/-- What a text is sealed with. -/
structure Sealing (Key Nonce Data Text : Type) where
  key : Key
  nonce : Nonce
  data : Data
  text : Text

namespace Aead

variable {Key Nonce Data Text Body Tag : Type}

/-- The body and the tag of a sealing. -/
def box (aead : Aead Key Nonce Data Text Body Tag) (sealing : Sealing Key Nonce Data Text) : Body × Tag :=
  aead.encrypt sealing.key sealing.nonce sealing.data sealing.text

/-- The encryption is ideal relative to the sealings that have taken place. -/
structure Ideal (aead : Aead Key Nonce Data Text Body Tag) (done : Set (Sealing Key Nonce Data Text)) :
    Prop where
  opens : ∀ sealing ∈ done, aead.decrypt sealing.key sealing.nonce sealing.data (aead.box sealing).1
    (aead.box sealing).2 = some sealing.text
  authentic : ∀ key nonce data body tag text, aead.decrypt key nonce data body tag = some text →
    ⟨key, nonce, data, text⟩ ∈ done ∧ aead.encrypt key nonce data text = (body, tag)
  distinct : done.InjOn aead.box

variable {aead : Aead Key Nonce Data Text Body Tag} {done : Set (Sealing Key Nonce Data Text)}

/-- A box opens exactly when it is that of a sealing with this key, nonce and data. -/
theorem Ideal.decrypt_eq_some_iff (h : aead.Ideal done) {key : Key} {nonce : Nonce} {data : Data}
    {body : Body} {tag : Tag} {text : Text} :
    aead.decrypt key nonce data body tag = some text ↔
      ∃ sealing ∈ done, sealing = ⟨key, nonce, data, text⟩ ∧ aead.box sealing = (body, tag) := by
  constructor
  · intro hopen
    obtain ⟨hdone, hbox⟩ := h.authentic _ _ _ _ _ _ hopen
    exact ⟨_, hdone, rfl, hbox⟩
  · intro hsealed
    obtain ⟨sealing, hdone, rfl, hbox⟩ := hsealed
    have hopens := h.opens _ hdone
    rw [hbox] at hopens
    exact hopens

end Aead

/-- A terminator that does not occur in the components ends them in the same place. -/
theorem append_terminator_inj {α : Type} {terminator : α} {first first' rest rest' : List α}
    (hfirst : terminator ∉ first) (hfirst' : terminator ∉ first')
    (h : first ++ terminator :: rest = first' ++ terminator :: rest') : first = first' ∧ rest = rest' := by
  induction first generalizing first' with
  | nil =>
    cases first' with
    | nil => exact ⟨rfl, (List.cons.inj h).2⟩
    | cons head tail =>
      have hhead : terminator = head := (List.cons.inj h).1
      exact absurd (hhead ▸ List.mem_cons_self) hfirst'
  | cons head tail ih =>
    cases first' with
    | nil =>
      have hhead : head = terminator := (List.cons.inj h).1
      exact absurd (hhead ▸ List.mem_cons_self) hfirst
    | cons head' tail' =>
      obtain ⟨hhead, htail⟩ := List.cons.inj h
      obtain ⟨hsame, hrest⟩ := ih (fun hmem => hfirst (List.mem_cons_of_mem _ hmem))
        (fun hmem => hfirst' (List.mem_cons_of_mem _ hmem)) htail
      exact ⟨by rw [hhead, hsame], hrest⟩

end CashMesh.Lib
