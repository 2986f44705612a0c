import CallProfile.Proofs.Session.Conservation

namespace CallProfile.Session

variable {σ α : Type}

def Event.action? : Event σ α → Option α
  | .outside action => some action
  | _ => none

def History.actions (history : History σ α) : List α := (history.filterMap fun entry => entry.event.action?).reverse

theorem actions_cons (entry : Entry σ α) (past : History σ α) :
    History.actions (entry :: past) = past.actions ++ entry.event.action?.toList := by
  cases action : entry.event.action? <;> simp [History.actions, action]

theorem action?_of_beginning {event : Event σ α} {asked : ThreadId × String × Device}
    (begins : event.beginning? = some asked) : event.action? = none := by
  cases event <;> first | rfl | cases begins

theorem action?_of_ending {event : Event σ α} {asked : ThreadId × CallId} (ends : event.ending? = some asked) :
    event.action? = none := by
  cases event <;> first | rfl | cases ends

theorem action?_of_refusal {session : Session σ} {event : Event σ α} {error : ProfileError}
    (refused : session.refusal? event = some error) : event.action? = none := by
  cases event <;> first | rfl | cases refused

theorem actions_of_begun {history : History σ α} {call : Begun σ α} (begun : call ∈ history.begunCalls) :
    ∃ more, history.actions = call.past.actions ++ more := by
  induction history with
  | nil => cases begun
  | cons entry past ih =>
    rw [actions_cons]
    rcases List.mem_append.mp begun with here | earlier
    · have recent : call.past = past := Entry.past_of_begun (Option.mem_toList.mp here)
      exact ⟨_, by rw [recent]⟩
    · obtain ⟨more, same⟩ := ih earlier
      exact ⟨_, by rw [same, List.append_assoc]⟩

theorem begun_of_closed {history past : History σ α} {call : Begun σ α} (closed : (call, past) ∈ history.closedCalls) :
    call ∈ past.begunCalls := by
  induction history with
  | nil => cases closed
  | cons entry older ih =>
    rcases List.mem_append.mp closed with here | earlier
    · simp only [List.mem_map, Option.mem_toList, Option.bind_eq_some_iff, Prod.mk.injEq] at here
      obtain ⟨other, ⟨id, -, found⟩, rfl, rfl⟩ := here
      exact List.mem_of_find?_eq_some found
    · exact ih earlier

/-- The calls of a run, each with what had happened before it was closed, in the order of the report. -/
def Run.spells (run : Run σ α) : List (Begun σ α × History σ α) :=
  run.history.closedCalls.reverse ++ run.history.openCalls.map (·, run.history)

theorem actions_of_spells {run : Run σ α} {spell : Begun σ α × History σ α} (member : spell ∈ run.spells) :
    ∃ more, spell.2.actions = spell.1.past.actions ++ more := by
  rcases List.mem_append.mp member with closed | isOpen
  · exact actions_of_begun (begun_of_closed (List.mem_reverse.mp closed))
  · obtain ⟨call, within, rfl⟩ := List.mem_map.mp isOpen
    exact actions_of_begun (History.mem_begun_of_open within)

theorem forall₂_of_map_eq {β γ δ : Type} {f : β → δ} {g : γ → δ} {xs : List β} {ys : List γ}
    (same : xs.map f = ys.map g) : List.Forall₂ (fun x y => f x = g y) xs ys := by
  rw [← List.forall₂_eq_eq_eq] at same
  exact List.forall₂_map_right_iff.mp (List.forall₂_map_left_iff.mp same)

theorem Conserved.spells {run : Run σ α} {report : Report} (conserved : Conserved run report) :
    List.Forall₂ (fun spell record => record.heading = spell.1.heading) run.spells report.calls := by
  have headings : run.spells.map (fun spell => spell.1.heading) = report.calls.map CallRecord.heading := by
    rw [conserved.headings, Run.spells]
    simp [Function.comp_def]
  exact (forall₂_of_map_eq headings).imp fun _ _ same => same.symm

end CallProfile.Session
