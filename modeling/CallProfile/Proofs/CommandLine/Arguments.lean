import CallProfile.CommandLine.Arguments

namespace CallProfile.CommandLine

def mergeLine (paths : List String) (output : String) : List String :=
  "merge" :: ("--output=" ++ output) :: "--" :: paths

def mergeReading (output : String) (together : List String) : Reading :=
  ⟨[], [(.output, output)], [], together, none, true⟩

theorem ofText_output (output : String) : Argument.ofText ("--output=" ++ output) = .long "output" (some output) := by
  have letters : ("--output=" ++ output).toList = ['-', '-', 'o', 'u', 't', 'p', 'u', 't', '='] ++ output.toList :=
    String.toList_append
  simp [Argument.ofText, letters, splitEquals]

theorem add_mergeReading {output path : String} {together : List String} (named : path ≠ "") :
    Reading.add Subcommand.merge.shape (mergeReading output together) path =
      .ok (mergeReading output (together ++ [path])) := by
  show Reading.addFile Subcommand.merge.shape (mergeReading output together) path = _
  rw [Reading.addFile, if_neg (by simp [mergeReading, named])]
  rfl

theorem addAll_mergeReading {output : String} {paths together : List String} (named : ∀ path ∈ paths, path ≠ "") :
    paths.foldlM (Reading.add Subcommand.merge.shape) (mergeReading output together) =
      .ok (mergeReading output (together ++ paths)) := by
  induction paths generalizing together with
  | nil => simp [pure, Except.pure]
  | cons path paths ih =>
    obtain ⟨here, others⟩ := List.forall_mem_cons.mp named
    rw [List.foldlM_cons, add_mergeReading here]
    show paths.foldlM _ _ = _
    rw [ih others, List.append_assoc, List.singleton_append]

theorem add_output {output : String} (given : output ≠ "") :
    Reading.add Subcommand.merge.shape .empty ("--output=" ++ output) =
      .ok { mergeReading output [] with literal := false } := by
  rw [Reading.add, ofText_output]
  have accepted : Reading.accepts .output output := by simp [Reading.accepts, given]
  have fresh : ¬ (!Reading.accepts .output output ∨ (Reading.empty.values.lookup .output).isSome) := by
    simp [accepted, Reading.empty]
  show Reading.setValue Subcommand.merge.shape .empty .output output = _
  exact if_neg fresh

theorem request?_mergeLine {paths : List String} {output : String} (several : 2 ≤ paths.length)
    (named : ∀ path ∈ paths, path ≠ "") (given : output ≠ "") :
    request? (mergeLine paths output) = some (.run (.merge paths output)) := by
  have settled : (mergeReading output paths).settle Subcommand.merge.shape =
      .ok { mergeReading output [] with files := paths } := by
    have some : paths ≠ [] := by rintro rfl; simp at several
    have enough : ¬ paths.length < Subcommand.merge.shape.fewestTogether := Nat.not_lt.mpr several
    simp [Reading.settle, mergeReading, some, enough]
  have read : Reading.addAll Subcommand.merge.shape .empty (("--output=" ++ output) :: "--" :: paths) =
      .ok { mergeReading output [] with files := paths } := by
    rw [Reading.addAll, List.foldlM_cons, add_output given, ← settled]
    show (do (← paths.foldlM _ (mergeReading output [])).settle _) = _
    rw [addAll_mergeReading named]
    rfl
  have asked : readFrom .empty (mergeLine paths output) =
      readCommand .merge (("--output=" ++ output) :: "--" :: paths) := rfl
  rw [request?, asked, readCommand, read]
  cases paths with
  | nil => cases several
  | cons path paths => rfl

end CallProfile.CommandLine
