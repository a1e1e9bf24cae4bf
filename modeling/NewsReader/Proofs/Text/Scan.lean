import NewsReader.Proofs.Text.Titles

/-!
# One scan for all names

What is written by name is looked for kind by kind, and each time the whole text is read. `ScansTo`
is the rule that this comes to: the text is read once from left to right; where one of the names
stands, its character comes out, and the scan goes on behind the name, so that what came out is
never read again; any other character comes out as it is. The rule has a table of names of its own
and does not know of an order among them.

* `IsScan.eq_iff_scansTo` — a function with the equations of a scan is the only one that follows
  the rule.
* `Entity.isScan_writeOut`, `isScan_writeOutEntities` — one kind, and all kinds one after the
  other.
* `writeOutEntities_eq_iff_scansTo` — what the two come to.
-/

namespace NewsReader.Text

variable {cs out : List Char} {table : List (Char × String)} {f : List Char → List Char}

/-! ### The rule -/

/-- What comes out of a scan of a text, with a table of characters and the texts that stand for
them. -/
inductive ScansTo (table : List (Char × String)) : List Char → List Char → Prop where
  /-- Nothing comes out of nothing. -/
  | nil : ScansTo table [] []
  /-- One of the texts stands in front: its character comes out, and the scan goes on behind it. -/
  | named {c : Char} {name : String} {rest out : List Char} (h : (c, name) ∈ table)
    (hrest : ScansTo table rest out) :
      ScansTo table (name.toList ++ rest) (c :: out)
  /-- None of the texts stands in front: the first character comes out as it is. -/
  | kept {c : Char} {rest out : List Char} (h : ∀ p ∈ table, ¬p.2.toList <+: c :: rest)
      (hrest : ScansTo table rest out) : ScansTo table (c :: rest) (c :: out)

/-- The equations of a scan. -/
structure IsScan (table : List (Char × String)) (f : List Char → List Char) : Prop where
  /-- Each text of the table has characters in it. -/
  ne_nil : ∀ p ∈ table, p.2.toList ≠ []
  /-- Nothing comes out of nothing. -/
  nil : f [] = []
  /-- A text of the table gives way to its character. -/
  named : ∀ p ∈ table, ∀ rest, f (p.2.toList ++ rest) = p.1 :: f rest
  /-- A character that starts none of the texts is kept. -/
  kept : ∀ c rest, (∀ p ∈ table, ¬p.2.toList <+: c :: rest) → f (c :: rest) = c :: f rest

namespace IsScan

/-- What comes out of a scan is what the function gives. -/
theorem eq_of_scansTo (hf : IsScan table f) (h : ScansTo table cs out) : f cs = out := by
  induction h with
  | nil => exact hf.nil
  | named h _ ih => rw [hf.named _ h, ih]
  | kept h _ ih => rw [hf.kept _ _ h, ih]

/-- What the function gives comes out of a scan. -/
theorem scansTo (hf : IsScan table f) (cs : List Char) : ScansTo table cs (f cs) := by
  -- By induction on the length, since the scan goes on behind a whole name.
  induction hlength : cs.length using Nat.strongRecOn generalizing cs with
  | ind n ih =>
    subst hlength
    by_cases hnamed : ∃ p ∈ table, p.2.toList <+: cs
    · obtain ⟨p, hp, rest, rfl⟩ := hnamed
      have hshorter : rest.length < (p.2.toList ++ rest).length := by
        rw [List.length_append]
        exact Nat.lt_add_of_pos_left (List.length_pos_iff.mpr (hf.ne_nil p hp))
      rw [hf.named p hp]
      exact .named hp (ih _ hshorter rest rfl)
    · cases cs with
      | nil =>
        rw [hf.nil]
        exact .nil
      | cons c rest =>
        have hnone : ∀ p ∈ table, ¬p.2.toList <+: c :: rest :=
          fun p hp hfront => hnamed ⟨p, hp, hfront⟩
        rw [hf.kept c rest hnone]
        exact .kept hnone (ih _ (Nat.lt_succ_self _) rest rfl)

/-- A function with the equations of a scan follows the rule, and nothing else comes out. -/
theorem eq_iff_scansTo (hf : IsScan table f) : f cs = out ↔ ScansTo table cs out :=
  ⟨fun h => h ▸ hf.scansTo cs, hf.eq_of_scansTo⟩

end IsScan

/-! ### Named characters -/

/-- What titles write by name: the signs of their own, and the space at which lines are not
broken. -/
def names : List (Char × String) :=
  (' ', "&nbsp;") :: spellings

namespace Entity

/-- The written form, as a string. -/
def written (e : Entity) : String :=
  "&" ++ e.name ++ ";"

/-- The characters of the written form. -/
theorem toList_written (e : Entity) : e.written.toList = e.chars := by
  simp [written, chars, tail]

/-- The named characters are those of titles. -/
theorem perm_names : names.Perm (all.map fun e => (e.char, e.written)) := by
  decide

/-- What it is for the written form to stand in front. -/
theorem written_prefix_iff {e : Entity} :
    e.written.toList <+: cs ↔ ∃ rest, cs = e.chars ++ rest := by
  simp only [toList_written, List.IsPrefix, eq_comm]

/-- One kind of named character is written out by a scan for its name. -/
theorem isScan_writeOut (e : Entity) : IsScan [(e.char, e.written)] e.writeOut where
  ne_nil := by
    intro p hp
    obtain rfl := List.mem_singleton.mp hp
    rw [toList_written]
    exact List.cons_ne_nil _ _
  nil := by rw [writeOut, replaceAll]
  named := by
    intro p hp rest
    obtain rfl := List.mem_singleton.mp hp
    rw [toList_written, writeOut_chars]
  kept := by
    intro c rest h
    refine writeOut_cons_of_none (Option.eq_none_iff_forall_ne_some.mpr fun ds hds => ?_)
    exact h _ (List.mem_singleton_self _)
      (written_prefix_iff.mpr ⟨ds, dropFront?_eq_some_iff.mp hds⟩)

end Entity

open Entity in
/-- One kind after the other, the named characters of titles are written out by one scan for all
names. -/
theorem isScan_writeOutEntities : IsScan names writeOutEntities where
  ne_nil := by decide
  nil := by rw [writeOutEntities_eq, writeOutOnce]
  named := by
    intro p hp rest
    obtain ⟨e, he, rfl⟩ := List.mem_map.mp (perm_names.mem_iff.mp hp)
    rw [toList_written, writeOutEntities_eq, writeOutEntities_eq, writeOutOnce_chars he]
  kept := by
    intro c rest h
    -- The names are those of the kinds, so the single scan that the kinds come to finds none
    -- either.
    have hnone : front? all (c :: rest) = none := by
      refine front?_eq_none_iff.mpr fun e he ds hds => ?_
      exact h _ (perm_names.mem_iff.mpr (List.mem_map_of_mem he))
        (written_prefix_iff.mpr ⟨ds, hds⟩)
    rw [writeOutEntities_eq, writeOutEntities_eq, writeOutOnce_of_none hnone]

/-- Nothing is written out twice. One kind of named character is written out by a scan for its name
alone. All kinds one after the other are written out as by a single scan for all names, which never
reads again what came out of it. -/
theorem writeOutEntities_eq_iff_scansTo (cs out : List Char) :
    (∀ e : Entity, e.writeOut cs = out ↔ ScansTo [(e.char, e.written)] cs out) ∧
    (writeOutEntities cs = out ↔ ScansTo names cs out) :=
  ⟨fun e => e.isScan_writeOut.eq_iff_scansTo, isScan_writeOutEntities.eq_iff_scansTo⟩

end NewsReader.Text
