import NewsReader.Proofs.Config.File
import NewsReader.Proofs.Json.Compound

/-!
# The configuration as a tree

The kind of a vault is a string with its name, or an object that has the name as its only key and
`null` as the value. All other settings are strings and numbers, or `null`.

* `StoreKind.readsTrees` — kinds of vaults are trees.
* `Config.readTrees` — so all settings are.
-/

namespace NewsReader

open Json (NextAt Reader Stands Tree WritesText readColon_eq_ok_iff readWord_eq_ok_iff skipSpace
  skipSpace_skipSpace stands_object stands_text stands_word)

namespace StoreKind

variable {kind kind' : StoreKind} {raw s rest : List Char}

/-- A name is read from a string that writes it. -/
theorem run_nameReader_iff : nameReader.run s = .ok (kind, rest) ↔
    ∃ raw, Stands (.value (.text raw)) (skipSpace s) rest ∧
      WritesText raw kind.name.toList := by
  constructor
  · intro h
    simp only [nameReader, Reader.filterMap] at h
    split at h
    · cases h
    · next hrun =>
      obtain ⟨_, hkey, heq⟩ := Json.exists_of_map_eq_ok h
      obtain ⟨rfl, rfl⟩ := Prod.mk.inj heq
      obtain ⟨raw, cs, hstands, hraw, htext⟩ := Reader.exists_of_text hrun
      refine ⟨raw, hstands, ?_⟩
      rwa [ofKey_eq_ok_iff.mp hkey, htext, String.toList_ofList]
  · rintro ⟨raw, hstands, hraw⟩
    have hkey : ofKey (String.ofList kind.name.toList) = .ok kind :=
      ofKey_eq_ok_iff.mpr String.ofList_toList.symm
    exact (Reader.takes_text hraw "variant identifier").filterMap hkey s rest hstands
      (by rintro _ ⟨⟩)

/-- The word `null` is read beside a name. -/
theorem readUnit_eq_ok_iff :
    readUnit s = .ok rest ↔ Stands (.value (.word .null)) (skipSpace s) rest := by
  rw [stands_word]
  unfold readUnit
  constructor
  · intro h
    split at h
    · next hs => exact hs.trans (congrArg ('n' :: ·) (readWord_eq_ok_iff.mp h))
    · cases h
  · intro hs
    replace hs : skipSpace s = 'n' :: ('u' :: 'l' :: 'l' :: rest) := hs
    simp only [hs]
    exact readWord_eq_ok_iff.mpr rfl

/-- An object with one key ends where its bracket stands. -/
theorem readClosing_eq_ok_iff : readClosing s = .ok rest ↔ skipSpace s = '\x7d' :: rest := by
  unfold readClosing
  constructor
  · intro h
    split at h
    · cases h
    · next hs => exact Except.ok.inj h ▸ hs
    · cases h
  · intro h
    simp only [h]

/-- What follows a name is read if it is `null` and the only value of the object. -/
theorem readRest_eq_ok_iff : readRest kind s = .ok (kind', rest) ↔
    kind = kind' ∧ ∃ s₁ s₂,
      skipSpace s = ':' :: s₁ ∧ Stands (.value (.word .null)) (skipSpace s₁) s₂ ∧
      skipSpace s₂ = '\x7d' :: rest := by
  unfold readRest
  constructor
  · intro h
    split at h
    · cases h
    · next s₁ hcolon =>
      split at h
      · cases h
      · next s₂ hunit =>
        obtain ⟨_, hend, heq⟩ := Json.exists_of_map_eq_ok h
        obtain ⟨rfl, rfl⟩ := Prod.mk.inj heq
        exact ⟨rfl, s₁, s₂, readColon_eq_ok_iff.mp hcolon, readUnit_eq_ok_iff.mp hunit,
          readClosing_eq_ok_iff.mp hend⟩
  · rintro ⟨rfl, s₁, s₂, hcolon, hunit, hend⟩
    simp only [readColon_eq_ok_iff.mpr hcolon, readUnit_eq_ok_iff.mpr hunit,
      readClosing_eq_ok_iff.mpr hend]
    rfl

/-- A string is taken as the kind whose name it writes. -/
theorem takes_text (h : WritesText raw kind.name.toList) : reader.Takes (.text raw) kind := by
  intro s rest hstands _
  have hname : nameReader.run (skipSpace s) = .ok (kind, rest) :=
    run_nameReader_iff.mpr ⟨raw, by rwa [skipSpace_skipSpace], h⟩
  obtain ⟨hs, -⟩ := stands_text.mp hstands
  rw [hs] at hname
  simp only [reader, hs, hname, ↓reduceIte]

/-- An object is taken as the kind whose name its only key writes. -/
theorem takes_object (h : WritesText raw kind.name.toList) :
    reader.Takes (.object [(raw, .word .null)]) kind := by
  intro s rest hstands _
  obtain ⟨s₀, hs, hms⟩ := stands_object.mp hstands
  cases hms with
  | @member _ _ _ _ _ s₁ s₂ s₃ mid _ hnext hkey hraw hcolon hvalue hlater =>
    cases hlater with
    | endMembers hend =>
      obtain rfl : s₀ = s₁ := hnext
      -- The key is read as a string would be.
      have hname : nameReader.run (skipSpace s₀) = .ok (kind, s₂) := by
        refine run_nameReader_iff.mpr ⟨raw, ?_, h⟩
        rw [skipSpace_skipSpace, hkey]
        exact .text hraw
      have hrest : readRest kind s₂ = .ok (kind, rest) :=
        readRest_eq_ok_iff.mpr ⟨rfl, s₃, mid, hcolon, hvalue, hend⟩
      rw [hkey] at hname
      simp [reader, hs, readKind, hkey, hname, hrest]

/-- Kinds of vaults are trees. -/
theorem readsTrees : reader.ReadsTrees := by
  intro s rest kind h
  simp only [reader] at h
  split at h
  · cases h
  · next c s₀ hs =>
    split at h
    · -- A kind is a name, or else an object with the name as its only key and `null` behind it.
      rw [← hs] at h
      obtain ⟨raw, hstands, hraw⟩ := run_nameReader_iff.mp h
      rw [skipSpace_skipSpace] at hstands
      exact ⟨.text raw, hstands, by rintro _ ⟨⟩, takes_text hraw⟩
    · split at h
      · next hc =>
        split at h
        · cases h
        · next kind' s₂ hkind =>
          obtain ⟨rfl, s₃, mid, hcolon, hvalue, hend⟩ := readRest_eq_ok_iff.mp h
          unfold readKind at hkind
          split at hkind
          · cases hkind
          · next hs₀ =>
            split at hkind
            · rw [← hs₀] at hkind
              obtain ⟨raw, hstands, hraw⟩ := run_nameReader_iff.mp hkind
              obtain ⟨hkey, hisRaw⟩ := stands_text.mp hstands
              rw [skipSpace_skipSpace] at hkey
              have hms : Stands (.members true [(raw, .word .null)]) s₀ rest :=
                .member (rfl : NextAt true s₀ s₀) hkey hisRaw hcolon hvalue (.endMembers hend)
              exact ⟨.object [(raw, .word .null)],
                stands_object.mpr ⟨s₀, hs.trans (by rw [hc]), hms⟩,
                by rintro _ ⟨⟩, takes_object hraw⟩
            · split at hkind <;> cases hkind
      · cases h

end StoreKind

/-- All settings are trees. -/
theorem Config.readTrees : shape.fields.ReadTrees :=
  ⟨(Reader.readsTrees_text _).optional, (Reader.readsTrees_text _).optional, StoreKind.readsTrees,
    Reader.readsTrees_natural.optional, Reader.readsTrees_natural.optional,
      (Reader.readsTrees_text _).optional, (Reader.readsTrees_text _).optional, trivial⟩

end NewsReader
