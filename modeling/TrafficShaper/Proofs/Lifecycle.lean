import TrafficShaper.Lifecycle
import Mathlib

/-! # The lifecycle under interleaving

Every section under the lock does some of the work left in the calls in progress: a call moves
on, a delivery thread starts or stops, and a spawn costs less than the section that makes it.
So no schedule runs sections forever, and a call that cannot return is one that waits with no
section left to wake it.

With one calling thread the lifecycle is what its phases promise: between calls the phase is
inactive with no sender and every delivery thread ended, or running with the sender of the one
live loop, and a call in progress always has a section to take. With two calling threads it is
not: a deactivation can take the sender and mark the phase inactive while an activation waits
for its new loop; the loop then sets the phase to running, is told to quit and stops. Depending
on whether the waiting activation sees the short moment in which the loop runs, it returns and
leaves the phase running with no sender and no thread, or it waits for ever.

* `workLeft_step`: every section lowers the work left;
* `System.Alone`, `System.Alone.step`: the states with one calling thread, kept by every step;
* `single_caller_lifecycle`: one calling thread keeps the lifecycle consistent, and its calls
  return;
* `lifecycle_race`: two calling threads break it, either way.
-/

namespace TrafficShaper.Lifecycle

/-! ## The work left -/

/-- The work a calling thread has left in its call, with room for the thread it may spawn. -/
def Caller.work : Caller → Nat
  | .idle => 0
  | .askActivate => 10
  | .askDeactivate => 10
  | .activate => 9
  | .deactivate => 9
  | .awaitStopped => 6
  | .awaitRunning => 5
  | .join _ => 3

/-- The sections a delivery thread has left. -/
def Worker.work (w : Worker) : Nat :=
  match w.point with
  | .spawned => 2
  | .serving => 1
  | .ended => 0

/-- **The work left** in a system: in the calls in progress and in the delivery threads. -/
def System.workLeft (s : System) : Nat :=
  (s.callers.map Caller.work).sum + (s.workers.map Worker.work).sum

theorem sum_set_add {l : List ℕ} {i y : ℕ} (hi : l[i]? = some y) (x : ℕ) :
    (l.set i x).sum + y = l.sum + x := by
  obtain ⟨hlt, rfl⟩ := List.getElem?_eq_some_iff.1 hi
  have hsplit : l.sum = (l.take i).sum + (l.drop i).sum := (List.sum_take_add_sum_drop l i).symm
  rw [List.drop_eq_getElem_cons hlt, List.sum_cons] at hsplit
  rw [List.sum_set, if_pos hlt]
  omega

theorem sum_map_set {α : Type} (f : α → ℕ) {l : List α} {i : ℕ} {a : α} (hi : l[i]? = some a)
    (b : α) : ((l.set i b).map f).sum + f a = (l.map f).sum + f b := by
  have hmap : (l.map f)[i]? = some (f a) := by simp [hi]
  rw [List.map_set]
  exact sum_set_add hmap (f b)

theorem workers_work_tell (ws : List Worker) (t : ℕ) :
    (ws.modify t fun w => { w with told := true }).map Worker.work = ws.map Worker.work := by
  apply List.ext_getElem?
  intro j
  simp only [List.getElem?_map, List.getElem?_modify]
  cases ws[j]? with
  | none => rfl
  | some w => by_cases h : t = j <;> simp [h, Worker.work]

section Work

variable {s : System} {i : ℕ} {c : Caller}

theorem workLeft_setCaller (hi : s.callers[i]? = some c) {c' : Caller} (hw : c'.work < c.work) :
    (s.setCaller i c').workLeft < s.workLeft := by
  have h := sum_map_set Caller.work hi c'
  simp only [System.workLeft, System.setCaller]
  omega

theorem workLeft_release (hi : s.callers[i]? = some c) (hw : 3 < c.work) :
    (s.release i).workLeft < s.workLeft := by
  have h := sum_map_set Caller.work hi (.join s.shared.thread)
  have hjoin : (Caller.join s.shared.thread).work = 3 := rfl
  simp only [System.workLeft, System.release] at h ⊢
  omega

theorem workLeft_tell (s : System) (sh : Shared) (t : ℕ) :
    ({ s with shared := sh, workers := s.workers.modify t fun w => { w with told := true } } :
      System).workLeft = s.workLeft := by
  simp only [System.workLeft, workers_work_tell]

end Work

theorem workLeft_callerStep {s s' : System} {i : ℕ} (h : s.callerStep i = some s') :
    s'.workLeft < s.workLeft := by
  unfold System.callerStep at h
  split at h
  · next hi => cases h; split <;> exact workLeft_setCaller hi (by decide)
  · next hi => cases h; split <;> exact workLeft_setCaller hi (by decide)
  · next hi =>
    split at h
    · cases h; exact workLeft_setCaller hi (by decide)
    · -- the spawned thread's two sections are fewer than the four the activation gives up
      cases h
      have hcallers := sum_map_set Caller.work hi
        (if s.shared.running then Caller.idle else .awaitRunning)
      have hle : (if s.shared.running then Caller.idle else .awaitRunning).work ≤ 5 := by
        split <;> decide
      have hactivate : Caller.activate.work = 9 := rfl
      have hspawned : Worker.work ⟨.spawned, false⟩ = 2 := rfl
      simp only [System.workLeft, List.map_append, List.sum_append, List.map_cons, List.map_nil,
        List.sum_cons, List.sum_nil, hspawned] at hcallers ⊢
      omega
  · next hi =>
    split at h
    · cases h; exact workLeft_setCaller hi (by decide)
    · cases h
  · next hi =>
    split at h
    · cases h; exact workLeft_setCaller hi (by decide)
    · -- telling the loop to quit does no work; the call moves on
      split at h
      · cases h
        refine lt_of_lt_of_eq
          (workLeft_setCaller ?_ (show Caller.awaitStopped.work < Caller.deactivate.work by decide))
          (workLeft_tell s _ _)
        exact hi
      · cases h
        refine lt_of_lt_of_eq (workLeft_release ?_ (show 3 < Caller.deactivate.work by decide))
          (workLeft_tell s _ _)
        exact hi
  · next hi =>
    split at h
    · cases h
    · cases h; exact workLeft_release hi (by decide)
  · next hi =>
    split at h
    · cases h; exact workLeft_setCaller hi (by simp [Caller.work])
    · cases h
  · cases h

theorem workLeft_workerStep {s s' : System} {t : ℕ} (h : s.workerStep t = some s') :
    s'.workLeft < s.workLeft := by
  unfold System.workerStep at h
  split at h
  · next told hw =>
    cases h
    have hworkers := sum_map_set Worker.work hw ⟨.serving, told⟩
    simp only [System.workLeft, Worker.work] at hworkers ⊢
    omega
  · next hw =>
    cases h
    have hworkers := sum_map_set Worker.work hw ⟨.ended, true⟩
    simp only [System.workLeft, Worker.work] at hworkers ⊢
    omega
  · cases h

/-- **Every section lowers the work left**, so no schedule takes sections for ever: between
calls, every run comes to rest. -/
theorem workLeft_step {s s' : System} {a : Action} (ha : ∀ i c, a ≠ .call i c)
    (h : s.step a = some s') : s'.workLeft < s.workLeft := by
  cases a with
  | call i c => exact absurd rfl (ha i c)
  | caller i => exact workLeft_callerStep h
  | worker t => exact workLeft_workerStep h

/-! ## One calling thread -/

/-- Every delivery thread but the last has ended; the last is `w`, and `P` holds of its index. -/
def System.Last (s : System) (w : Worker) (P : ℕ → Prop) : Prop :=
  ∃ ws, s.workers = ws ++ [w] ∧ (∀ v ∈ ws, v.point = .ended) ∧ P ws.length

/-- **No loop**: inactive, no sender and no handle, every delivery thread ended. -/
def System.Down (s : System) : Prop :=
  s.shared = ⟨.inactive, false, none, none⟩ ∧ ∀ v ∈ s.workers, v.point = .ended

/-- **One loop running**: the last delivery thread serves, and the sender and the handle are its. -/
def System.Up (s : System) : Prop :=
  s.Last ⟨.serving, false⟩ fun n => s.shared = ⟨.running, true, some n, some n⟩

/-- **Where one calling thread can be with the rest of the system**: between the sections of an
activation the new loop may not have started yet, between those of a deactivation it may not have
stopped yet, and otherwise there is no loop or one running loop. -/
def System.Fits (s : System) : Caller → Prop
  | .awaitRunning =>
    s.Last ⟨.spawned, false⟩ (fun n => s.shared = ⟨.starting, false, some n, some n⟩) ∨ s.Up
  | .awaitStopped =>
    s.Last ⟨.serving, true⟩ (fun n => s.shared = ⟨.stopping, true, none, some n⟩) ∨
      s.Last ⟨.ended, true⟩ (fun n => s.shared = ⟨.stopping, false, none, some n⟩)
  | .join h => s.Last ⟨.ended, true⟩ fun n => s.shared = ⟨.inactive, false, none, none⟩ ∧ h = some n
  | _ => s.Down ∨ s.Up

/-- **The states of one calling thread.** -/
def System.Alone (s : System) : Prop := ∃ c, s.callers = [c] ∧ s.Fits c

theorem System.alone_start : (System.start 1).Alone :=
  ⟨.idle, rfl, .inl ⟨rfl, fun _ h => by simp [System.start] at h⟩⟩

section Alone

variable {s s' : System} {c : Caller}

theorem alone_setCaller (hc : s.callers = [c]) {c' : Caller} (hfit : s.Fits c') :
    (s.setCaller 0 c').Alone :=
  ⟨c', by simp [System.setCaller, hc], hfit⟩

theorem workerStep_eq_none {t : ℕ}
    (h : ∀ v ∈ s.workers, v.point = .ended ∨ v = ⟨.serving, false⟩) : s.workerStep t = none := by
  unfold System.workerStep
  split
  · next told hw => simpa using h _ (List.mem_of_getElem? hw)
  · next hw => simpa using h _ (List.mem_of_getElem? hw)
  · rfl

theorem workerStep_alive {t : ℕ} (hs : s.workerStep t = some s') :
    ∃ v, s.workers[t]? = some v ∧ v.point ≠ .ended := by
  unfold System.workerStep at hs
  split at hs
  · next told hw => exact ⟨_, hw, by simp⟩
  · next hw => exact ⟨_, hw, by simp⟩
  · cases hs

theorem System.Last.workerStep {w : Worker} {P : ℕ → Prop} {t : ℕ} (hl : s.Last w P)
    (hs : s.workerStep t = some s') :
    ∃ ws, s.workers = ws ++ [w] ∧ (∀ v ∈ ws, v.point = .ended) ∧ P ws.length ∧ t = ws.length := by
  obtain ⟨ws, hws, hended, hP⟩ := hl
  obtain ⟨v, hv, hpoint⟩ := workerStep_alive hs
  refine ⟨ws, hws, hended, hP, ?_⟩
  rw [hws, List.getElem?_append] at hv
  split at hv
  · exact absurd (hended v (List.mem_of_getElem? hv)) hpoint
  · rw [List.getElem?_singleton] at hv
    split at hv <;> first | omega | cases hv

theorem System.Last.mem {w : Worker} {P : ℕ → Prop} (hl : s.Last w P) :
    ∀ v ∈ s.workers, v.point = .ended ∨ v = w := by
  obtain ⟨ws, hws, hended, -⟩ := hl
  intro v hv
  rw [hws, List.mem_append, List.mem_singleton] at hv
  rcases hv with hv | rfl
  exacts [.inl (hended v hv), .inr rfl]

theorem System.Last.all_ended {b : Bool} {P : ℕ → Prop} (hl : s.Last ⟨.ended, b⟩ P) :
    ∀ v ∈ s.workers, v.point = .ended := by
  intro v hv
  rcases hl.mem v hv with h | rfl
  exacts [h, rfl]

theorem System.Alone.callerStep (h : s.Alone) {i : ℕ} (hs : s.callerStep i = some s') : s'.Alone := by
  obtain ⟨c, hc, hfit⟩ := h
  unfold System.callerStep at hs
  rw [hc] at hs
  cases i with
  | succ n => simp at hs
  | zero =>
  simp only [List.getElem?_cons_zero] at hs
  cases c <;> simp only at hs
  case idle => cases hs
  case askActivate | askDeactivate =>
    cases hs
    exact alone_setCaller hc (by split <;> exact hfit)
  case activate =>
    split at hs
    · cases hs
      exact alone_setCaller hc hfit
    · -- no sender, so no loop: a new thread is spawned and the call waits for it
      next hnone =>
      cases hs
      rcases hfit with ⟨hdown, hended⟩ | ⟨ws, -, -, hup⟩
      · refine ⟨.awaitRunning, by simp [hdown], .inl ⟨s.workers, rfl, hended, ?_⟩⟩
        simp [hdown]
      · simp [hup] at hnone
  case deactivate =>
    split at hs
    · cases hs
      exact alone_setCaller hc hfit
    · -- the sender of the running loop is taken and the loop told to quit; the call waits
      next t hsome =>
      rcases hfit with ⟨hdown, -⟩ | ⟨ws, hws, hended, hup⟩
      · simp [hdown] at hsome
      · rw [hup] at hsome hs
        cases hsome
        simp only [↓reduceIte, Option.some.injEq] at hs
        subst hs
        refine ⟨.awaitStopped, by simp [System.setCaller], .inl ⟨ws, ?_, hended, ?_⟩⟩
        · simp only [System.setCaller, hws]
          rw [List.modify_eq_take_cons_drop (by simp)]
          simp
        · simp [System.setCaller]
  case awaitRunning =>
    split at hs
    · next hrun =>
      cases hs
      rcases hfit with ⟨ws, -, -, hstart⟩ | hup
      · simp [hstart] at hrun
      · exact alone_setCaller hc (.inr hup)
    · cases hs
  case awaitStopped =>
    split at hs
    · cases hs
    · -- the loop has stopped: the handle is taken and the phase is inactive
      next hrun =>
      cases hs
      rcases hfit with ⟨ws, -, -, hstop⟩ | ⟨ws, hws, hended, hstop⟩
      · simp [hstop] at hrun
      · refine ⟨.join (some ws.length), by simp [System.release, hc, hstop], ws, hws, hended, ?_,
          rfl⟩
        simp [System.release, hstop]
  case join h =>
    split at hs
    · cases hs
      simp only [System.Fits] at hfit
      have hended := hfit.all_ended
      obtain ⟨-, -, -, hdown, -⟩ := hfit
      exact alone_setCaller hc (.inl ⟨hdown, hended⟩)
    · cases hs

theorem workerStep_of_down_or_up (hfit : s.Down ∨ s.Up) {t : ℕ} : s.workerStep t = none := by
  apply workerStep_eq_none
  rcases hfit with ⟨-, hended⟩ | hup
  · exact fun v hv => .inl (hended v hv)
  · exact System.Last.mem hup

theorem workerStep_of_ended {P : ℕ → Prop} (hl : s.Last ⟨.ended, true⟩ P) {t : ℕ} :
    s.workerStep t = none := by
  apply workerStep_eq_none
  exact fun v hv => .inl (hl.all_ended v hv)

theorem set_last {α : Type} (ws : List α) (w x : α) : (ws ++ [w]).set ws.length x = ws ++ [x] := by
  rw [List.set_append, if_neg (lt_irrefl _), Nat.sub_self, List.set_cons_zero]

theorem System.Alone.workerStep (h : s.Alone) {t : ℕ} (hs : s.workerStep t = some s') : s'.Alone := by
  obtain ⟨c, hc, hfit⟩ := h
  cases c
  case awaitRunning =>
    rcases hfit with hstart | hup
    · obtain ⟨ws, hws, hended, hshared, rfl⟩ := System.Last.workerStep hstart hs
      unfold System.workerStep at hs
      rw [hws, List.getElem?_concat_length] at hs
      simp only [Option.some.injEq] at hs
      subst hs
      refine ⟨.awaitRunning, hc, .inr ⟨ws, ?_, hended, ?_⟩⟩
      · simp only [set_last]
      · simp [hshared]
    · rw [workerStep_of_down_or_up (.inr hup)] at hs
      cases hs
  case awaitStopped =>
    rcases hfit with hstop | hstopped
    · obtain ⟨ws, hws, hended, hshared, rfl⟩ := System.Last.workerStep hstop hs
      unfold System.workerStep at hs
      rw [hws, List.getElem?_concat_length] at hs
      simp only [Option.some.injEq] at hs
      subst hs
      refine ⟨.awaitStopped, hc, .inr ⟨ws, ?_, hended, ?_⟩⟩
      · simp only [set_last]
      · simp [hshared]
    · rw [workerStep_of_ended hstopped] at hs
      cases hs
  case join h =>
    simp only [System.Fits] at hfit
    rw [workerStep_of_ended hfit] at hs
    cases hs
  all_goals
    rw [workerStep_of_down_or_up hfit] at hs
    cases hs

theorem System.Alone.call (h : s.Alone) {i : ℕ} {k : Call} (hs : s.step (.call i k) = some s') :
    s'.Alone := by
  obtain ⟨c, hc, hfit⟩ := h
  simp only [System.step] at hs
  split at hs
  · next hidle =>
    cases hs
    rw [hc] at hidle
    cases i with
    | succ n => simp at hidle
    | zero =>
      simp only [List.getElem?_cons_zero, Option.some.injEq] at hidle
      subst hidle
      cases k <;> exact alone_setCaller hc hfit
  · cases hs

/-- **Every step keeps one calling thread alone** with a state it fits. -/
theorem System.Alone.step (h : s.Alone) {a : Action} (hs : s.step a = some s') : s'.Alone := by
  cases a with
  | call i k => exact h.call hs
  | caller i => exact h.callerStep hs
  | worker t => exact h.workerStep hs

theorem System.Alone.run (h : s.Alone) (sched : List Action) (hrun : s.run sched = some s') :
    s'.Alone := by
  induction sched generalizing s with
  | nil =>
    cases hrun
    exact h
  | cons a as ih =>
    simp only [System.run] at hrun
    rcases hstep : s.step a with _ | s₁
    · simp [hstep] at hrun
    · simp only [hstep, Option.bind_some] at hrun
      exact ih (h.step hstep) hrun

theorem System.Alone.consistent (h : s.Alone) (hq : s.Quiet) : s.Consistent := by
  obtain ⟨c, hc, hfit⟩ := h
  have hidle : c = .idle := hq c (by simp [hc])
  subst hidle
  rcases hfit with ⟨hdown, hended⟩ | ⟨ws, hws, -, hup⟩
  · simpa [System.Consistent, hdown] using hended
  · -- the last delivery thread is alive
    have halive : ¬ ∀ w ∈ s.workers, w.point = .ended := fun hall =>
      absurd (hall ⟨.serving, false⟩ (by simp [hws])) (by simp)
    simp [System.Consistent, hup, halive]

/-- **A call in progress can always go on**: the calling thread, or the delivery thread it waits
for, has a section to take. -/
theorem System.Alone.progress (h : s.Alone) (hq : ¬ s.Quiet) : ∃ a s', s.step a = some s' := by
  obtain ⟨c, hc, hfit⟩ := h
  have hcaller : (s.callerStep 0).isSome → ∃ a s', s.step a = some s' := fun h₁ =>
    ⟨.caller 0, Option.isSome_iff_exists.1 h₁⟩
  have hnext : ∀ t, (s.workerStep t).isSome → ∃ a s', s.step a = some s' := fun t h₁ =>
    ⟨.worker t, Option.isSome_iff_exists.1 h₁⟩
  cases c
  case idle => exact absurd (fun c' hc' => by simpa [hc] using hc') hq
  case awaitRunning =>
    rcases hfit with ⟨ws, hws, -, hshared⟩ | ⟨ws, -, -, hup⟩
    · exact hnext ws.length (by simp [System.workerStep, hws])
    · exact hcaller (by simp [System.callerStep, hc, hup])
  case awaitStopped =>
    rcases hfit with ⟨ws, hws, -, hshared⟩ | ⟨ws, -, -, hstop⟩
    · exact hnext ws.length (by simp [System.workerStep, hws])
    · exact hcaller (by simp [System.callerStep, hc, hstop])
  case join handle =>
    obtain ⟨ws, hws, -, -, rfl⟩ := hfit
    exact hcaller (by simp [System.callerStep, System.joinable, hc, hws])
  all_goals
    apply hcaller
    simp only [System.callerStep, hc, List.getElem?_cons_zero]
    repeat' split
    all_goals rfl

theorem System.Alone.step_call (h : s.Alone) (hq : ¬ s.Quiet) (i : ℕ) (k : Call) :
    s.step (.call i k) = none := by
  obtain ⟨c, hc, -⟩ := h
  have hbusy : c ≠ .idle := fun hidle => hq fun c' hc' => by simp_all
  cases i <;> simp [System.step, hc, hbusy]

end Alone

/-! ## One calling thread, and two -/

/-- **One calling thread keeps the lifecycle consistent, and its calls return.** Whatever the
schedule, between calls the phase agrees with the sender, the delivery threads alive and the
loop; during a call some thread has a section to take, and each section lowers the work left, so
every call returns after finitely many sections. -/
theorem single_caller_lifecycle (sched : List Action) (s : System)
    (h : (System.start 1).run sched = some s) :
    (s.Quiet → s.Consistent) ∧
      (¬ s.Quiet → (∃ a s', s.step a = some s') ∧
        ∀ a s', s.step a = some s' → s'.workLeft < s.workLeft) := by
  have hs : s.Alone := System.alone_start.run sched h
  refine ⟨hs.consistent, fun hq => ⟨hs.progress hq, fun a s' hstep => workLeft_step ?_ hstep⟩⟩
  rintro i k rfl
  rw [hs.step_call hq] at hstep
  cases hstep

/-- An activation through the filter, waiting for the loop it spawned. -/
theorem single_caller_awaits_loop :
    (System.start 1).run [.call 0 .filterActivate, .caller 0, .caller 0] =
        some ⟨⟨.starting, false, some 0, some 0⟩, [.awaitRunning], [⟨.spawned, false⟩]⟩ ∧
      (System.Quiet ⟨⟨.starting, false, some 0, some 0⟩, [.awaitRunning], [⟨.spawned, false⟩]⟩ →
        System.Consistent
          ⟨⟨.starting, false, some 0, some 0⟩, [.awaitRunning], [⟨.spawned, false⟩]⟩) ∧
      (¬ System.Quiet ⟨⟨.starting, false, some 0, some 0⟩, [.awaitRunning], [⟨.spawned, false⟩]⟩ →
        (∃ a s', System.step
          ⟨⟨.starting, false, some 0, some 0⟩, [.awaitRunning], [⟨.spawned, false⟩]⟩ a = some s') ∧
        ∀ a s', System.step
            ⟨⟨.starting, false, some 0, some 0⟩, [.awaitRunning], [⟨.spawned, false⟩]⟩ a = some s' →
          s'.workLeft <
            System.workLeft
              ⟨⟨.starting, false, some 0, some 0⟩, [.awaitRunning], [⟨.spawned, false⟩]⟩) :=
  ⟨by decide,
    single_caller_lifecycle [.call 0 .filterActivate, .caller 0, .caller 0] _ (by decide)⟩

/-- **Two calling threads break the lifecycle.** An activation spawns a loop and waits; a
deactivation takes its sender, tells it to quit and, the loop not yet running, marks the phase
inactive and joins. The loop then says that it runs, setting the phase to running, and stops. If
the activation wakes while the loop runs, it returns and leaves the phase running with no
sender; if it does not, it waits with no section left to wake it, until some thread starts
another call. -/
theorem lifecycle_race :
    (System.start 2).run
        [.call 0 .filterActivate, .caller 0, .caller 0, .call 1 .filterDeactivate, .caller 1,
          .caller 1, .worker 0, .caller 0, .worker 0, .caller 1] =
        some ⟨⟨.running, false, none, none⟩, [.idle, .idle], [⟨.ended, true⟩]⟩ ∧
      System.Quiet ⟨⟨.running, false, none, none⟩, [.idle, .idle], [⟨.ended, true⟩]⟩ ∧
      ¬ System.Consistent ⟨⟨.running, false, none, none⟩, [.idle, .idle], [⟨.ended, true⟩]⟩ ∧
    (System.start 2).run
        [.call 0 .filterActivate, .caller 0, .caller 0, .call 1 .filterDeactivate, .caller 1,
          .caller 1, .worker 0, .worker 0, .caller 1] =
        some ⟨⟨.running, false, none, none⟩, [.awaitRunning, .idle], [⟨.ended, true⟩]⟩ ∧
      ∀ a s', System.step
          ⟨⟨.running, false, none, none⟩, [.awaitRunning, .idle], [⟨.ended, true⟩]⟩ a = some s' →
        ∃ i k, a = .call i k := by
  refine ⟨by decide, by decide, by decide, by decide, ?_⟩
  intro a s' hstep
  cases a with
  | call i k => exact ⟨i, k, rfl⟩
  | caller i =>
    match i with
    | 0 | 1 => simp [System.step, System.callerStep] at hstep
    | n + 2 => simp [System.step, System.callerStep] at hstep
  | worker t =>
    match t with
    | 0 => simp [System.step, System.workerStep] at hstep
    | n + 1 => simp [System.step, System.workerStep] at hstep

end TrafficShaper.Lifecycle
