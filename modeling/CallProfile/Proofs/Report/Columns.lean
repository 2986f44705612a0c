import Mathlib.Data.List.Forall2
import CallProfile.Proofs.Device.Grammar
import CallProfile.Report.Table

namespace CallProfile

namespace Text

theorem length_le_utf8ByteSize (text : String) : text.length ≤ text.utf8ByteSize := by
  suffices bytes : ∀ chars : List Char, chars.length ≤ (String.ofList chars).utf8ByteSize by
    simpa [String.length_toList] using bytes text.toList
  intro chars
  induction chars with
  | nil => simp
  | cons c rest ih =>
    have split : String.ofList (c :: rest) = String.singleton c ++ String.ofList rest := by
      rw [String.singleton_eq_ofList, ← String.ofList_append, List.singleton_append]
    rw [split, String.utf8ByteSize_append, String.utf8ByteSize_singleton, List.length_cons]
    have some := c.utf8Size_pos
    omega

end Text

namespace TextTable

abbrev Fits (cells : List String) (widths : List Nat) : Prop :=
  List.Forall₂ (fun cell width => cell.length ≤ width) cells widths

def widen (widths : List Nat) (row : List String) : List Nat := List.zipWith max widths (row.map String.length)

theorem Fits.widen {cells row : List String} {widths : List Nat} (fits : Fits cells widths)
    (even : row.length = cells.length) : Fits cells (widen widths row) := by
  induction fits generalizing row with
  | nil => exact .nil
  | cons first _ ih =>
    obtain ⟨other, others, rfl⟩ := List.exists_cons_of_length_eq_add_one even
    exact .cons (Nat.le_trans first (Nat.le_max_left _ _)) (ih (Nat.succ.inj even))

theorem fits_widen {row : List String} {widths : List Nat} (even : row.length = widths.length) :
    Fits row (widen widths row) := by
  induction row generalizing widths with
  | nil =>
    cases List.eq_nil_of_length_eq_zero even.symm
    exact .nil
  | cons first rest ih =>
    obtain ⟨width, others, rfl⟩ := List.exists_cons_of_length_eq_add_one even.symm
    exact .cons (Nat.le_max_right _ _) (ih (Nat.succ.inj even))

theorem Fits.foldl_widen {cells : List String} {rows : List (List String)} {widths : List Nat}
    (fits : Fits cells widths) (even : ∀ row ∈ rows, row.length = cells.length) :
    Fits cells (rows.foldl TextTable.widen widths) := by
  induction rows generalizing widths with
  | nil => exact fits
  | cons first rest ih =>
    exact ih (fits.widen (even first List.mem_cons_self)) fun row member => even row (List.mem_cons_of_mem _ member)

theorem fits_foldl_widen {rows : List (List String)} {widths : List Nat}
    (even : ∀ row ∈ rows, row.length = widths.length) {row : List String} (member : row ∈ rows) :
    Fits row (rows.foldl widen widths) := by
  induction rows generalizing widths with
  | nil => cases member
  | cons first rest ih =>
    have here : Fits first (widen widths first) := fits_widen (even first List.mem_cons_self)
    have same : (widen widths first).length = widths.length := here.length_eq.symm.trans (even first List.mem_cons_self)
    have later : ∀ row ∈ rest, row.length = (widen widths first).length :=
      fun row member => (even row (List.mem_cons_of_mem _ member)).trans same.symm
    rcases List.mem_cons.mp member with rfl | member
    · exact here.foldl_widen fun row member => (later row member).trans here.length_eq.symm
    · exact ih later member

/-- No row has more cells than the header, nor fewer. -/
def Even (table : TextTable) : Prop := ∀ row ∈ table.rows, row.length = table.header.length

theorem Even.fits {table : TextTable} (even : table.Even) {cells : List String}
    (member : cells ∈ table.header :: table.rows) : Fits cells table.widths := by
  rcases List.mem_cons.mp member with rfl | member
  · refine Fits.foldl_widen ?_ even
    exact List.forall₂_map_right_iff.mpr (List.forall₂_same.mpr fun cell _ => Text.length_le_utf8ByteSize cell)
  · exact fits_foldl_widen (fun row listed => (even row listed).trans (List.length_map _).symm) member

/-- A cell filled up with blanks: behind it in the first two columns, before it in all others. -/
def filled (column width : Nat) (cell : String) : String :=
  let gap := String.ofList (List.replicate (width - cell.length) ' ')
  if column < 2 then cell ++ gap else gap ++ cell

def padded (widths : List Nat) (entries : List String) : List String :=
  (entries.zip widths).mapIdx fun column cell => filled column cell.2 cell.1

/-- How many characters stand before a column. -/
def start : List Nat → Nat → Nat
  | _, 0 => 0
  | [], _ + 1 => 0
  | width :: rest, column + 1 => width + 2 + start rest column

def row (widths : List Nat) (entries : List String) : String := "  ".intercalate (padded widths entries)

def shown (widths : List Nat) (entries : List String) : String := .ofList (Text.trimEnd (row widths entries).toList)

-- The first column is as wide as the bytes of its header, which has one character less.
example : TextTable.text ⟨["Size µ", "Device", "Count"], [["β", "cpu:0", "12"], ["γδ ", "", ""]]⟩ =
    .ok "Size µ   Device  Count\nβ        cpu:0      12\nγδ\n" := by decide +kernel

end TextTable

namespace Report

end Report

end CallProfile
