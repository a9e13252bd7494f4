/-
# CallTree.Proofs.Task.Extension — tasks that do more where others fail.

One task is below another (`Task.Below`) if they do the same until the first fails; where it fails,
the other may do anything. Two lanes with such tasks go abreast, turn by turn: they have the same
processes at the same stages, the same state, and the same queue, for as long as nothing has failed
in the first (`Lane.Abreast.turn`). A failure stays where it is and keeps a lane from succeeding. So
if the first lane succeeds, the second gives the same answer (`Lane.Reaches.transfer`).
-/
import CallTree.Proofs.Task.Alike

namespace CallTree

variable {σ ε α : Type}

/-! ## Tasks -/

/-- **`t.Below t'`** — `t'` does what `t` does, up to where `t` fails. -/
inductive Task.Below : Task σ ε α → Task σ ε α → Prop where
  | succeed (a : α) : Below (.succeed a) (.succeed a)
  | fail (e : ε) (t : Task σ ε α) : Below (.fail e) t
  | act {update : σ → σ} {next next' : σ → Task σ ε α} (rest : ∀ s, Below (next s) (next' s)) :
      Below (.act update next) (.act update next')
  | pause {next next' : Task σ ε α} (rest : Below next next') : Below (.pause next) (.pause next')
  | hang : Below .hang .hang
  | gather {count : Nat} {child child' : Nat → Task σ ε α} {next next' : List α → Task σ ε α}
      (children : ∀ i, Below (child i) (child' i))
      (rest : ∀ values, Below (next values) (next' values)) :
      Below (.gather count child next) (.gather count child' next')

namespace Task

theorem Below.refl (t : Task σ ε α) : t.Below t := by
  induction t with
  | done outcome =>
    cases outcome with
    | ok a => exact .succeed a
    | error e => exact .fail e _
  | act update next ih => exact .act ih
  | pause next ih => exact .pause ih
  | hang => exact .hang
  | gather count child next ihChild ihNext => exact .gather ihChild ihNext

/-- Tasks start as many children, each below its counterpart. -/
theorem Below.gatherAll {tasks tasks' : List (Task σ ε α)} {next next' : List α → Task σ ε α}
    (children : List.Forall₂ Below tasks tasks')
    (rest : ∀ values, (next values).Below (next' values)) :
    (gatherAll tasks next).Below (.gatherAll tasks' next') := by
  have child (i : Nat) : (tasks.getD i .hang).Below (tasks'.getD i .hang) := by
    induction children generalizing i with
    | nil => exact .hang
    | cons first _ ih =>
      cases i with
      | zero => exact first
      | succ i => exact ih i
  unfold Task.gatherAll
  rw [children.length_eq]
  exact .gather child rest

theorem Below.andThen {t t' : Task σ ε α} {k k' : α → Task σ ε α} (h : t.Below t')
    (goesOn : ∀ a, (k a).Below (k' a)) : (t.andThen k).Below (t'.andThen k') := by
  induction h with
  | succeed a => exact goesOn a
  | fail e t => exact .fail e _
  | act _ ih => exact .act ih
  | pause _ ih => exact .pause ih
  | hang => exact .hang
  | gather children _ _ ih => exact .gather children ih

/-- **A task runs** until it fails, or as its counterpart does. -/
theorem Below.advance {t t' : Task σ ε α} (h : t.Below t') (s : σ) :
    (∃ e, (t.advance s).1 = .ended (.error e)) ∨
      (t.advance s).1.Alike Below (t'.advance s).1 ∧ (t'.advance s).2 = (t.advance s).2 := by
  induction h generalizing s with
  | succeed a => exact .inr ⟨.ended _, rfl⟩
  | fail e t => exact .inl ⟨e, rfl⟩
  | @act update _ _ _ ih => exact ih s (update s)
  | pause rest => exact .inr ⟨.paused rest, rfl⟩
  | hang => exact .inr ⟨.hung, rfl⟩
  | @gather count _ _ _ _ children rest _ ih =>
    cases count with
    | zero => exact ih [] s
    | succ count => exact .inr ⟨.waiting children rest, rfl⟩

/-- **A task that has succeeded early** has a counterpart that has. -/
theorem Below.early {t t' : Task σ ε α} (h : t.Below t') {s after : σ} {a : α}
    (success : t.early s = (some (.ok a), after)) : t'.early s = (some (.ok a), after) := by
  have first := h.advance s
  unfold Task.early at success ⊢
  generalize t.advance s = stopped at first success
  generalize t'.advance s = stopped' at first
  obtain ⟨stop, mid⟩ := stopped
  obtain ⟨stop', mid'⟩ := stopped'
  rcases first with ⟨e, failed⟩ | ⟨alike, same⟩
  · cases failed
    cases success
  · cases same
    cases alike with
    | ended outcome => exact success
    | @paused rest rest' below =>
      rw [Prod.mk.injEq] at success ⊢
      rcases below.advance mid with ⟨e, failed⟩ | ⟨alike, same⟩
      · rw [failed] at success
        cases success.1
      · rw [alike.outcome?, same]
        exact success
    | hung => cases success
    | waiting _ _ =>
      -- Children that are called off give no success.
      rw [Prod.mk.injEq, Option.map_eq_some_iff] at success
      obtain ⟨⟨e, -, failed⟩, -⟩ := success
      cases failed

end Task

/-! ## Failures stay -/

namespace Process

/-- What has ended stays as it is when another process changes. -/
theorem ended_put {own own' : Stage σ ε α} {children started : List (Process σ ε α)}
    {outcome : Except ε α} {path place : List Nat} {p : Process σ ε α}
    (here : p.at? path = some (.node own children)) (active : ∀ result, own ≠ .ended result)
    (ended : p.stage? place = some (.ended outcome)) :
    (p.put own' started path).stage? place = some (.ended outcome) := by
  refine stage?_put_other here ?_ ended
  rintro rfl
  rw [stage?_of_at? here, Option.some.injEq] at ended
  exact active outcome ended

end Process

/-! ## Lanes -/

namespace Lane

/-- **`l.Below l'`** — the same has been done in both lanes, and the same is to be done. -/
structure Below (l l' : Lane σ ε α) : Prop where
  state : l'.state = l.state
  root : l.root.Alike Task.Below l'.root
  answer : l'.answer = l.answer

/-- A lane in which a process has failed. -/
def Failed (l : Lane σ ε α) : Prop := ∃ place e, l.root.stage? place = some (.ended (.error e))

/-- A failure stays, whatever is done in its lane. -/
theorem Failed.handled {l : Lane σ ε α} (failed : l.Failed) {due : Due} {l' : Lane σ ε α × List Due}
    (h : l.Handled due l') : l'.1.Failed := by
  obtain ⟨place, e, ended⟩ := failed
  cases h with
  | run here => exact ⟨place, e, Process.ended_put here nofun ended⟩
  | idle _ => exact ⟨place, e, ended⟩
  | failed here _ _ => exact ⟨place, e, Process.ended_put here nofun ended⟩
  | joined here _ _ _ => exact ⟨place, e, Process.ended_put here nofun ended⟩
  | told here _ _ _ => exact ⟨place, e, Process.ended_put here nofun ended⟩
  | void _ => exact ⟨place, e, ended⟩

theorem Failed.turn {x : Lane σ ε α × List Due} (failed : x.1.Failed) : (turn x).1.Failed := by
  obtain ⟨l, queue⟩ := x
  cases queue with
  | nil => exact failed
  | cons due rest =>
    have failed' := Failed.handled failed (l.handled due)
    exact failed'

/-- A lane in which a process has failed does not succeed. -/
theorem Sound.not_failed {task : Task σ ε α} {state : σ} {l : Lane σ ε α}
    (sound : l.Sound task state) {a : Answer σ ε α} (answer : l.answer = some a) {v : α}
    (success : a.outcome = .ok v) : ¬ l.Failed := by
  rintro ⟨place, e, failed⟩
  have verdict := sound.verdict
  rw [answer, Option.map_some, success] at verdict
  have done : l.root.Succeeded := ⟨v, Stage.ended_of_outcome? verdict.symm⟩
  obtain ⟨q, there, ended⟩ := Option.map_eq_some_iff.1 failed
  obtain ⟨w, same⟩ := done.at? sound.tidy there
  rw [ended] at same
  cases same

/-- **`Abreast x x'`** — the same has been done in two lanes, and the same is due in them. -/
structure Abreast (x x' : Lane σ ε α × List Due) : Prop where
  lane : x.1.Below x'.1
  due : x'.2 = x.2

theorem abreast_begun {task task' : Task σ ε α} (h : task.Below task') (state : σ) :
    Abreast (begun task state) (begun task' state) :=
  ⟨⟨rfl, Process.alike_fresh h, rfl⟩, rfl⟩

/-- A process is told of the end of a child. -/
theorem Below.tell {l l' : Lane σ ε α} (h : l.Below l') (parent : List Nat) (slot : Nat) :
    Abreast (l.tell parent slot) (l'.tell parent slot) := by
  obtain ⟨root, due⟩ := tell_alike (fun outcome => Task.Below.refl (.done outcome)) h.root parent slot
  obtain ⟨state, answer⟩ := l.tell_rest parent slot
  obtain ⟨state', answer'⟩ := l'.tell_rest parent slot
  exact ⟨⟨by rw [state, state', h.state], root, by rw [answer, answer', h.answer]⟩, due⟩

/-- A process is run: it fails in the first lane, or the lanes stay abreast. -/
theorem Below.run {l l' : Lane σ ε α} (h : l.Below l') (path : List Nat) :
    (l.handle (.run path)).1.Failed ∨ Abreast (l.handle (.run path)) (l'.handle (.run path)) := by
  rcases h.root.ready path with ⟨other, other'⟩ | ⟨task, task', children, _, below, length, here, here'⟩
  · rw [handle_of_not_ready other, handle_of_not_ready other']
    exact .inr ⟨h, rfl⟩
  · rw [handle_of_ready here, handle_of_ready here', length, h.state]
    rcases below.advance l.state with ⟨e, failed⟩ | ⟨stops, same⟩
    · left
      rw [failed]
      exact ⟨path, e, Process.stage?_put_self here⟩
    · right
      rw [same]
      obtain ⟨root, due⟩ := settle_alike h.root (task.advance l.state).2 (task.advance l.state).2 path
        children.length stops
      refine ⟨⟨rfl, root, ?_⟩, due⟩
      simp only [settle, stops.outcome?, h.answer]

/-- **Step.** Two lanes stay abreast, until something fails in the first. -/
theorem Abreast.turn {x x' : Lane σ ε α × List Due} (h : Abreast x x') :
    (turn x).1.Failed ∨ Abreast (Lane.turn x) (Lane.turn x') := by
  obtain ⟨l, queue⟩ := x
  obtain ⟨l', queue'⟩ := x'
  obtain ⟨below, same⟩ := h
  simp only at below same
  subst same
  cases queue' with
  | nil => exact .inr ⟨below, rfl⟩
  | cons due rest =>
    have step : (l.handle due).1.Failed ∨ Abreast (l.handle due) (l'.handle due) := by
      cases due with
      | run path => exact below.run path
      | report parent slot => exact .inr (below.tell parent slot)
    refine step.imp_right fun next => ⟨next.lane, ?_⟩
    simp only [Lane.turn, next.due]

/-- **Run.** Where the first of two lanes has come without a failure, the second comes too. -/
theorem Abreast.reaches {x x' y : Lane σ ε α × List Due} (h : Abreast x x') (run : Reaches x y) :
    y.1.Failed ∨ ∃ y', Reaches x' y' ∧ Abreast y y' := by
  refine run.keeps (P := fun y => y.1.Failed ∨ ∃ y', Reaches x' y' ∧ Abreast y y') ?_
    (.inr ⟨x', .refl x', h⟩)
  rintro y (failed | ⟨y', reached, abreast⟩)
  · exact .inl failed.turn
  · exact abreast.turn.imp_right fun next => ⟨_, reached.trans (.turn y'), next⟩

/-- **A success carries over** to a task that does more where the first would have failed: the answer
is the same, in the same state. -/
theorem Reaches.transfer {task task' : Task σ ε α} (below : task.Below task') {state : σ}
    {y : Lane σ ε α × List Due} (run : Reaches (begun task state) y) {a : Answer σ ε α}
    (answer : y.1.answer = some a) {v : α} (success : a.outcome = .ok v) :
    ∃ y', Reaches (begun task' state) y' ∧ y'.1.answer = some a := by
  have kept := run.kept (kept_begun task state)
  rcases (abreast_begun below state).reaches run with failed | ⟨y', reached, abreast⟩
  · exact absurd failed (kept.sound.not_failed answer success)
  · exact ⟨y', reached, abreast.lane.answer.trans answer⟩

end Lane

end CallTree
