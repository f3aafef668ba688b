import MailCode.Issuance.Stage
/-!
# Several issuances at once

A `Crowd` is a list of issuances on one shared state. A `turn` is one step of one of them; any
order of turns is an interleaving. `Crowd.together` is one such order, that of a single worker who
goes round the unfinished issuances and pursues each until it comes to a stage where it has to
wait.
-/

namespace MailCode.Issuance

/-- One of several issuances. -/
structure Task where
  email : String
  stage : Stage
  deriving DecidableEq, Repr

/-- Issuances on one shared state, with the calls made and the events logged so far. -/
structure Crowd (σ : Type) where
  tasks : List Task
  state : σ
  calls : List Call
  events : List Event

/-- Whether the answer is there. -/
def Stage.isDone : Stage → Bool
  | .done _ => true
  | _ => false

namespace Crowd

variable {σ : Type}

/-- Issuances for some addresses, none of them begun. -/
def gather (emails : List String) (s : σ) : Crowd σ :=
  ⟨emails.map (⟨·, .start⟩), s, [], []⟩

/-- One step of the issuance at a place; a place that is empty has no turn. -/
def turn (c : Collaborators σ) (settings : IssuingSettings) (i : Nat) (crowd : Crowd σ) :
    Crowd σ :=
  match crowd.tasks[i]? with
  | none => crowd
  | some task =>
    let p := step c settings task.email task.stage crowd.state
    { tasks := crowd.tasks.set i { task with stage := p.stage }
      state := p.state
      calls := crowd.calls ++ p.calls
      events := crowd.events ++ p.events }

/-- The answers, of those that have one. -/
def answers (crowd : Crowd σ) : List Answer :=
  crowd.tasks.filterMap fun task => task.stage.answer?

/-- Pursues one issuance, for a number of steps at most, until it has its answer or comes to a
stage where it has to wait. -/
def pursue (c : Collaborators σ) (settings : IssuingSettings) (waits : Stage → Bool) (i : Nat) :
    (steps : Nat) → Crowd σ → Crowd σ
  | 0, crowd => crowd
  | steps + 1, crowd =>
    match crowd.tasks[i]? with
    | none => crowd
    | some task =>
      if task.stage.isDone then crowd
      else
        let crowd := crowd.turn c settings i
        if crowd.tasks[i]?.any fun task => waits task.stage then crowd
        else pursue c settings waits i steps crowd

/-- Pursues each issuance once, in order. -/
def round (c : Collaborators σ) (settings : IssuingSettings) (waits : Stage → Bool)
    (crowd : Crowd σ) : Crowd σ :=
  (List.range crowd.tasks.length).foldl
    (fun crowd i => crowd.pursue c settings waits i Stage.start.left) crowd

/-- Serves some addresses together. Every round brings each of them a step closer to its answer,
so as many rounds as an issuance has steps are enough. -/
def together (c : Collaborators σ) (settings : IssuingSettings) (waits : Stage → Bool)
    (emails : List String) (s : σ) : Crowd σ :=
  (List.range Stage.start.left).foldl (fun crowd _ => crowd.round c settings waits)
    (gather emails s)

end Crowd

end MailCode.Issuance
