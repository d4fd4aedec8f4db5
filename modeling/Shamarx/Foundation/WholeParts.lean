import Mathlib.Data.List.Nodup
import Mathlib.Data.List.Perm.Basic
import Shamarx.Foundation.AppendOnly

/-!
# Tables that are filled part by part

A source has its rows in parts, and an append-only table takes over some of the
parts.  As long as every insertion brings whole parts, a table is known from the
parts of which it has a row.
-/

namespace Shamarx
namespace Foundation

section Insertions

variable {row index : Type}

/-- Consecutive pieces of `n` rows, the last one shorter. -/
def batches (n : Nat) (rows : List row) : List (List row) :=
  (List.range ((rows.length + n - 1) / n)).map fun i => (rows.drop (i * n)).take n

theorem flatten_pieces (n : Nat) (rows : List row) (m : Nat) :
    ((List.range m).map fun i => (rows.drop (i * n)).take n).flatten = rows.take (m * n) := by
  induction m with
  | zero =>
      simp
  | succ m ih =>
      rw [List.range_succ, List.map_append, List.flatten_append, ih, List.map_singleton,
        List.flatten_singleton, Nat.succ_mul, List.take_add]

theorem flatten_batches {n : Nat} (hn : 0 < n) (rows : List row) :
    (batches n rows).flatten = rows := by
  rw [batches, flatten_pieces, List.take_of_length_le]
  have hround := Nat.div_add_mod (rows.length + n - 1) n
  have hlt := Nat.mod_lt (rows.length + n - 1) hn
  rw [Nat.mul_comm] at hround
  omega

variable [DecidableEq index] {key : row -> index}

theorem createMany_flatten (key : row -> index) (table : List row) (pieces : List (List row)) :
    createMany key table pieces.flatten = pieces.foldl (createMany key) table := by
  induction pieces generalizing table with
  | nil =>
      rfl
  | cons batch rest ih =>
      rw [List.flatten_cons, List.foldl_cons, <- ih]
      exact List.foldl_append

theorem nodup_createMany {table : List row} (h : (table.map key).Nodup) (rows : List row) :
    ((createMany key table rows).map key).Nodup := by
  induction rows generalizing table with
  | nil =>
      exact h
  | cons r rest ih =>
      rw [createMany_cons]
      apply ih
      unfold insertNew
      split_ifs with htaken
      · exact h
      · rw [List.map_append, List.map_singleton, List.nodup_append_comm, List.singleton_append,
          List.nodup_cons]
        constructor
        · intro hmem
          rcases List.mem_map.mp hmem with ⟨old, hold, hkey⟩
          exact htaken ⟨old, hold, hkey⟩
        · exact h

end Insertions

structure PartSource (row index part : Type) where
  key : row -> index
  partOf : row -> part
  rows : part -> List row
  part_eq : forall p r, r ∈ rows p -> partOf r = p
  key_inj : forall p q r r', r ∈ rows p -> r' ∈ rows q -> key r = key r' -> r = r'

namespace PartSource

variable {row index part : Type} (S : PartSource row index part)

def Holds (table : List row) (p : part) : Prop :=
  exists r, r ∈ table ∧ S.partOf r = p

instance [DecidableEq part] (table : List row) (p : part) : Decidable (S.Holds table p) :=
  inferInstanceAs (Decidable (exists r, r ∈ table ∧ S.partOf r = p))

/-- Only rows of the source, each once, and with a row its whole part. -/
structure Whole (table : List row) : Prop where
  distinct : (table.map S.key).Nodup
  stored : forall r, r ∈ table -> r ∈ S.rows (S.partOf r)
  whole : forall r, r ∈ table -> forall r', r' ∈ S.rows (S.partOf r) -> r' ∈ table

theorem whole_nil : S.Whole [] :=
  { distinct := List.nodup_nil
    stored := fun _ hr => (nomatch hr)
    whole := fun _ hr => (nomatch hr) }

variable {S} {table : List row}

def Covers (S : PartSource row index part) (rows : List row) (parts : part -> Prop) : Prop :=
  forall r, r ∈ rows <-> exists p, parts p ∧ r ∈ S.rows p

theorem Whole.mem_iff (h : S.Whole table) {p : part} {r : row} :
    r ∈ table ∧ S.partOf r = p <-> S.Holds table p ∧ r ∈ S.rows p := by
  constructor
  · rintro ⟨hr, rfl⟩
    exact ⟨⟨r, hr, rfl⟩, h.stored r hr⟩
  · rintro ⟨⟨old, hold, rfl⟩, hr⟩
    exact ⟨h.whole old hold r hr, S.part_eq _ r hr⟩

theorem Whole.nodup (h : S.Whole table) : table.Nodup :=
  List.Nodup.of_map S.key h.distinct

theorem Whole.perm_iff {table' : List row} (h : S.Whole table) (h' : S.Whole table')
    {chosen : part -> Prop} {keep : row -> Bool}
    (hkeep : forall r, keep r = true <-> chosen (S.partOf r)) :
    (table.filter keep).Perm (table'.filter keep) <->
      forall p, chosen p -> (S.Holds table p <-> S.Holds table' p) := by
  rw [List.perm_ext_iff_of_nodup (h.nodup.filter keep) (h'.nodup.filter keep)]
  simp only [List.mem_filter, hkeep]
  constructor
  · intro hsame p hp
    constructor
    · rintro ⟨r, hr, rfl⟩
      exact ⟨r, ((hsame r).mp ⟨hr, hp⟩).1, rfl⟩
    · rintro ⟨r, hr, rfl⟩
      exact ⟨r, ((hsame r).mpr ⟨hr, hp⟩).1, rfl⟩
  · intro hholds r
    constructor
    · rintro ⟨hr, hchosen⟩
      rcases h.mem_iff.mp ⟨hr, rfl⟩ with ⟨hpart, hrow⟩
      exact ⟨(h'.mem_iff.mpr ⟨(hholds _ hchosen).mp hpart, hrow⟩).1, hchosen⟩
    · rintro ⟨hr, hchosen⟩
      rcases h'.mem_iff.mp ⟨hr, rfl⟩ with ⟨hpart, hrow⟩
      exact ⟨(h.mem_iff.mpr ⟨(hholds _ hchosen).mpr hpart, hrow⟩).1, hchosen⟩

variable [DecidableEq index] {rows : List row} {parts : part -> Prop}

theorem Whole.mem_createMany (h : S.Whole table) (hrows : S.Covers rows parts) {r : row} :
    r ∈ createMany S.key table rows <-> r ∈ table ∨ r ∈ rows := by
  rcases exists_createMany_eq_append S.key table rows with ⟨fresh, heq, hfresh⟩
  constructor
  · intro hr
    rw [heq] at hr
    rcases List.mem_append.mp hr with hold | hnew
    · exact Or.inl hold
    · exact Or.inr (hfresh r hnew).1
  · rintro (hold | hnew)
    · rw [heq]
      exact List.mem_append_left fresh hold
    · -- the row whose key stands in the table is the row itself
      rcases exists_key_of_mem_createMany S.key table hnew with ⟨found, hfound, hkey⟩
      have hsource : exists p, found ∈ S.rows p := by
        rw [heq] at hfound
        rcases List.mem_append.mp hfound with hold | hin
        · exact ⟨_, h.stored found hold⟩
        · rcases (hrows found).mp (hfresh found hin).1 with ⟨p, -, hp⟩
          exact ⟨p, hp⟩
      rcases hsource with ⟨p, hp⟩
      rcases (hrows r).mp hnew with ⟨q, -, hq⟩
      rw [<- S.key_inj p q found r hp hq hkey]
      exact hfound

theorem Whole.inserted (h : S.Whole table) (hrows : S.Covers rows parts) :
    S.Whole (createMany S.key table rows) := by
  constructor
  · exact nodup_createMany h.distinct rows
  · intro r hr
    rcases (h.mem_createMany hrows).mp hr with hold | hnew
    · exact h.stored r hold
    · rcases (hrows r).mp hnew with ⟨p, -, hp⟩
      rw [S.part_eq p r hp]
      exact hp
  · intro r hr r' hr'
    apply (h.mem_createMany hrows).mpr
    rcases (h.mem_createMany hrows).mp hr with hold | hnew
    · exact Or.inl (h.whole r hold r' hr')
    · rcases (hrows r).mp hnew with ⟨p, hp, hmem⟩
      rw [S.part_eq p r hmem] at hr'
      exact Or.inr ((hrows r').mpr ⟨p, hp, hr'⟩)

theorem Whole.holds_createMany (h : S.Whole table) (hrows : S.Covers rows parts) (p : part) :
    S.Holds (createMany S.key table rows) p <->
      S.Holds table p ∨ (parts p ∧ S.rows p ≠ []) := by
  constructor
  · rintro ⟨r, hr, rfl⟩
    rcases (h.mem_createMany hrows).mp hr with hold | hnew
    · exact Or.inl ⟨r, hold, rfl⟩
    · rcases (hrows r).mp hnew with ⟨p, hp, hmem⟩
      rw [S.part_eq p r hmem]
      exact Or.inr ⟨hp, List.ne_nil_of_mem hmem⟩
  · rintro (⟨r, hr, hpart⟩ | ⟨hp, hne⟩)
    · exact ⟨r, (h.mem_createMany hrows).mpr (Or.inl hr), hpart⟩
    · rcases List.exists_mem_of_ne_nil _ hne with ⟨r, hr⟩
      exact ⟨r, (h.mem_createMany hrows).mpr (Or.inr ((hrows r).mpr ⟨p, hp, hr⟩)),
        S.part_eq p r hr⟩

end PartSource
end Foundation
end Shamarx
