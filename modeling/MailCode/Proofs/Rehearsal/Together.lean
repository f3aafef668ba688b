import MailCode.Proofs.Rehearsal.Independence
/-!
# Requests that are served together

`Crowd.together` goes round the issuances until all of them are done. That is one of the orders in
which they can have their turns (`together_eq_play`), so whatever holds of every order holds of it.
In particular it makes no difference to the answers at which points the issuances give way to one
another.
-/

namespace MailCode.Rehearsal

open Issuance World

variable {settings : IssuingSettings} {crowd : Crowd (World Memory)} {place : Nat} {task : Task}

/-- An issuance is left where it is by the turns of others. -/
theorem tasks_play_of_not_mem (settings : IssuingSettings) {places : List Nat}
    (h : place ∉ places) (crowd : Crowd (World Memory)) :
    (play settings (places.map .turn) crowd).tasks[place]? = crowd.tasks[place]? := by
  induction places generalizing crowd with
  | nil => rfl
  | cons first places ih =>
    obtain ⟨hne, hrest⟩ : place ≠ first ∧ place ∉ places := by simpa using h
    rw [List.map_cons, play_cons, ih hrest, tasks_play_turn_of_ne settings crowd hne]

/-- Pursuing an issuance gives it some turns, and at least one if it is not done. -/
theorem pursue_eq_play (settings : IssuingSettings) (waits : Stage → Bool) (place steps : Nat)
    (crowd : Crowd (World Memory)) :
    ∃ n, crowd.pursue cast settings waits place steps =
        play settings ((List.replicate n place).map .turn) crowd ∧
      (0 < steps → ∀ task, crowd.tasks[place]? = some task → task.stage.isDone = false →
        0 < n) := by
  induction steps generalizing crowd with
  | zero => exact ⟨0, rfl, fun h => absurd h (Nat.lt_irrefl 0)⟩
  | succ steps ih =>
    unfold Crowd.pursue
    cases htask : crowd.tasks[place]? with
    | none => exact ⟨0, rfl, fun _ task h => by cases h⟩
    | some task =>
      dsimp only
      split
      · rename_i hdone
        refine ⟨0, rfl, fun _ task' h hnot => ?_⟩
        cases h
        rw [hdone] at hnot
        cases hnot
      · split
        · exact ⟨1, rfl, fun _ _ _ _ => Nat.one_pos⟩
        · obtain ⟨n, hn, -⟩ := ih (crowd.turn cast settings place)
          exact ⟨n + 1, hn, fun _ _ _ _ => Nat.succ_pos n⟩

/-- Pursuing some issuances, each in its turn, gives a turn to those of them that are not done. -/
theorem pursueAll_eq_play (settings : IssuingSettings) (waits : Stage → Bool) (order : List Nat)
    (crowd : Crowd (World Memory)) :
    ∃ places : List Nat, order.foldl
          (fun crowd place => crowd.pursue cast settings waits place Stage.start.left) crowd =
        play settings (places.map .turn) crowd ∧
      ∀ place ∈ order, ∀ task, crowd.tasks[place]? = some task → task.stage.isDone = false →
        place ∈ places := by
  induction order generalizing crowd with
  | nil => exact ⟨[], rfl, fun place h => by cases h⟩
  | cons first order ih =>
    obtain ⟨n, hfirst, hturn⟩ := pursue_eq_play settings waits first Stage.start.left crowd
    obtain ⟨places, hrest, hturns⟩ := ih (crowd.pursue cast settings waits first Stage.start.left)
    refine ⟨List.replicate n first ++ places, ?_, fun place hplace task htask hnot => ?_⟩
    · rw [List.foldl_cons, hrest, hfirst, List.map_append, play_append]
    · by_cases hp : place = first
      · subst hp
        have hpos := hturn (by decide) task htask hnot
        exact List.mem_append_left _ (List.mem_replicate.2 ⟨Nat.ne_of_gt hpos, rfl⟩)
      · have hothers : place ∉ List.replicate n first :=
          fun hmem => hp (List.eq_of_mem_replicate hmem)
        have hstill := (tasks_play_of_not_mem settings hothers crowd).trans htask
        rw [← hfirst] at hstill
        have horder := (List.mem_cons.1 hplace).resolve_left hp
        exact List.mem_append_right _ (hturns place horder task hstill hnot)

/-- A round brings everybody who is not done a step closer to the answer. -/
theorem round_eq_play (settings : IssuingSettings) (waits : Stage → Bool)
    (crowd : Crowd (World Memory)) :
    ∃ places : List Nat, crowd.round cast settings waits =
        play settings (places.map .turn) crowd ∧
      ∀ (place : Nat) task, crowd.tasks[place]? = some task → ∃ task',
        (crowd.round cast settings waits).tasks[place]? = some task' ∧
          task'.stage.left ≤ task.stage.left - 1 := by
  obtain ⟨places, hround, hturns⟩ :=
    pursueAll_eq_play settings waits (List.range crowd.tasks.length) crowd
  have hround : crowd.round cast settings waits = play settings (places.map .turn) crowd := hround
  refine ⟨places, hround, fun place task htask => ?_⟩
  obtain ⟨task', htask', hleft⟩ := left_play settings places htask
  rw [hround]
  refine ⟨task', htask', ?_⟩
  cases hdone : task.stage.isDone with
  | true =>
    have hzero : task.stage.left = 0 := by
      cases hstage : task.stage <;> simp_all [Stage.isDone, Stage.left]
    omega
  | false =>
    have hlt : place < crowd.tasks.length := (List.getElem?_eq_some_iff.1 htask).1
    have hturn := hturns place (List.mem_range.2 hlt) task htask hdone
    have hcount := List.count_pos_iff.2 hturn
    omega

theorem rounds_eq_play (settings : IssuingSettings) (waits : Stage → Bool) (rounds : List Nat)
    (crowd : Crowd (World Memory)) :
    let final := rounds.foldl (fun crowd _ => crowd.round cast settings waits) crowd
    (∃ places : List Nat, final = play settings (places.map .turn) crowd) ∧
      ∀ (place : Nat) task, crowd.tasks[place]? = some task → ∃ task',
        final.tasks[place]? = some task' ∧ task'.stage.left ≤ task.stage.left - rounds.length := by
  induction rounds generalizing crowd with
  | nil => exact ⟨⟨[], rfl⟩, fun place task htask => ⟨task, htask, Nat.le_refl _⟩⟩
  | cons first rounds ih =>
    obtain ⟨places, hround, hcloser⟩ := round_eq_play settings waits crowd
    obtain ⟨⟨places', hrounds⟩, hclosest⟩ := ih (crowd.round cast settings waits)
    refine ⟨⟨places ++ places', ?_⟩, fun place task htask => ?_⟩
    · rw [List.foldl_cons, hrounds, hround, List.map_append, play_append]
    · obtain ⟨task₁, htask₁, hle₁⟩ := hcloser place task htask
      obtain ⟨task₂, htask₂, hle₂⟩ := hclosest place task₁ htask₁
      refine ⟨task₂, htask₂, ?_⟩
      rw [List.length_cons]
      omega

/-- Serving requests together is one of the orders in which they can have their turns, and at the
end all of them are done. -/
theorem together_eq_play (settings : IssuingSettings) (waits : Stage → Bool)
    (emails : List String) (w : World Memory) :
    let final := Crowd.together cast settings waits emails w
    (∃ places : List Nat, final = play settings (places.map .turn) (Crowd.gather emails w)) ∧
      ∀ task ∈ final.tasks, task.stage.isDone := by
  intro final
  obtain ⟨⟨places, hplaces⟩, hcloser⟩ :=
    rounds_eq_play settings waits (List.range Stage.start.left) (Crowd.gather emails w)
  have hplaces : final = play settings (places.map .turn) (Crowd.gather emails w) := hplaces
  refine ⟨⟨places, hplaces⟩, fun task htask => ?_⟩
  obtain ⟨place, hplace, rfl⟩ := List.getElem_of_mem htask
  have hlt : place < (Crowd.gather emails w).tasks.length := by
    rwa [hplaces, length_play] at hplace
  obtain ⟨task', htask', hle⟩ := hcloser place _ (List.getElem?_eq_getElem hlt)
  obtain rfl : final.tasks[place] = task' :=
    Option.some.inj ((List.getElem?_eq_getElem hplace).symm.trans htask')
  -- A round for each step that an issuance has.
  have hstart : (Crowd.gather emails w).tasks[place].stage = .start := by simp [Crowd.gather]
  rw [hstart, List.length_range, Nat.sub_self] at hle
  obtain ⟨answer, hdone⟩ := Stage.answer?_of_left (Nat.le_zero.1 hle)
  rw [hdone]
  rfl

/-- Requests that are served together are answered as they would be one after the other, wherever
they give way to one another. -/
theorem answers_together (settings : IssuingSettings) (emails : List String) (points : List Point)
    (w : World Memory) :
    (perform settings (.issueTogether emails points) w).result =
      .answers (inOrder settings emails w) := by
  obtain ⟨⟨places, hplaces⟩, hdone⟩ :=
    together_eq_play settings (givesWay points settings.strategy w.faults) emails w
  have houtlook := answers_eq_outlook hdone settings
  rw [hplaces, outlook_play, outlook_gather, ← inOrder_eq, ← hplaces] at houtlook
  exact congrArg Result.answers houtlook

end MailCode.Rehearsal
