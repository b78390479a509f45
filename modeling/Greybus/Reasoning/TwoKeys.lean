import Mathlib.Data.List.Nodup
import Mathlib.Data.PEquiv

/-!
# Tables with two keys

A list whose entries have two keys.  When neither key is repeated, looking an entry up under one key
and reading the other is a partial bijection.
-/

namespace Reasoning.TwoKeys

variable {ε α β : Type*} {k₁ : ε → α} {k₂ : ε → β} {l : List ε}

/-- Neither key is repeated. -/
structure OneToOne (k₁ : ε → α) (k₂ : ε → β) (l : List ε) : Prop where
  fst : (l.map k₁).Nodup
  snd : (l.map k₂).Nodup

theorem OneToOne.nil : OneToOne k₁ k₂ [] := ⟨List.nodup_nil, List.nodup_nil⟩

variable [DecidableEq α]

theorem find_eq_some_iff (h : (l.map k₁).Nodup) {a : α} {e : ε} :
    l.find? (k₁ · = a) = some e ↔ e ∈ l ∧ k₁ e = a := by
  constructor
  · intro hfind
    exact ⟨List.mem_of_find?_eq_some hfind, by simpa using List.find?_some hfind⟩
  · rintro ⟨hmem, rfl⟩
    obtain ⟨e', he'⟩ : ∃ e', l.find? (k₁ · = k₁ e) = some e' :=
      Option.isSome_iff_exists.mp (List.find?_isSome.mpr ⟨e, hmem, by simp⟩)
    have hkey : k₁ e' = k₁ e := by simpa using List.find?_some he'
    rw [he', List.inj_on_of_nodup_map h (List.mem_of_find?_eq_some he') hmem hkey]

theorem find_eq_none_iff {a : α} : l.find? (k₁ · = a) = none ↔ a ∉ l.map k₁ := by
  simp [List.find?_eq_none]

-- Reading the second key under the first one.
theorem lookup_eq_some_iff (h : (l.map k₁).Nodup) {a : α} {b : β} :
    (l.find? (k₁ · = a)).map k₂ = some b ↔ ∃ e ∈ l, k₁ e = a ∧ k₂ e = b := by
  rw [Option.map_eq_some_iff]
  constructor
  · rintro ⟨e, hfind, hb⟩
    obtain ⟨hmem, ha⟩ := (find_eq_some_iff h).mp hfind
    exact ⟨e, hmem, ha, hb⟩
  · rintro ⟨e, hmem, ha, hb⟩
    exact ⟨e, (find_eq_some_iff h).mpr ⟨hmem, ha⟩, hb⟩

-- A new entry is found under its own key, and changes no other lookup.
theorem find_concat (k : ε → α) {e : ε} (ha : l.find? (k · = k e) = none) (a : α) :
    (l ++ [e]).find? (k · = a) = if a = k e then some e else l.find? (k · = a) := by
  rw [List.find?_append]
  split
  next heq => simp [heq, ha]
  next hne => simp [Ne.symm hne]

variable [DecidableEq β]

/-- The two ways of looking up are inverse to each other. -/
def OneToOne.toPEquiv (h : OneToOne k₁ k₂ l) : α ≃. β where
  toFun a := (l.find? (k₁ · = a)).map k₂
  invFun b := (l.find? (k₂ · = b)).map k₁
  inv a b := by
    rw [lookup_eq_some_iff h.fst, lookup_eq_some_iff h.snd]
    simp only [and_comm]

theorem OneToOne.concat (h : OneToOne k₁ k₂ l) {e : ε} (ha : l.find? (k₁ · = k₁ e) = none)
    (hb : l.find? (k₂ · = k₂ e) = none) : OneToOne k₁ k₂ (l ++ [e]) := by
  constructor
  · rw [List.map_append, List.map_singleton]
    exact List.nodup_append.mpr ⟨h.fst, List.nodup_singleton _,
      fun a hmem a' ha' heq => find_eq_none_iff.mp ha (List.mem_singleton.mp ha' ▸ heq ▸ hmem)⟩
  · rw [List.map_append, List.map_singleton]
    exact List.nodup_append.mpr ⟨h.snd, List.nodup_singleton _,
      fun b hmem b' hb' heq => find_eq_none_iff.mp hb (List.mem_singleton.mp hb' ▸ heq ▸ hmem)⟩

end Reasoning.TwoKeys
