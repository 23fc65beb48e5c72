import TrafficShaper.Delivery

/-! # The delivery loop, step by step

The loop is driven by three kinds of event, in any interleaving: a delivery is posted to the
channel, the loop receives the oldest command of the channel, or the loop fires at a reading of
the clock and pushes every pending delivery whose deadline has come, in leaving order. When it is
told to quit, the commands still in the channel are received and everything pending is
discarded, so the loop hands back its `size`.

* `Loop.step`, `Loop.exec`: one event, and a run of events with every push it makes;
* `Loop.size_step`: an event moves deliveries between the loop and the pushes, and a post adds
  one;
* `Loop.Tracks`: the invariant that ties the loop and its pushes to the posts, numbered in
  posting order, kept by every event;
* `delivery_loop_keeps_order`: no post is lost, made up, pushed twice or pushed early, and an
  earlier post with a deadline no later leaves first.
-/

namespace TrafficShaper

/-- **An event of the delivery loop**: a delivery posted to the channel, the oldest command
received, or a firing at the reading `now`. -/
inductive Loop.Event where
  | post (d : Delivery)
  | receive
  | fire (now : Nat)

/-- **One event**: the loop after it, and the deliveries it pushed, each with the reading it was
pushed at. -/
def Loop.step (l : Loop) : Loop.Event → Loop × List (Pending × Nat)
  | .post d => (l.post d, [])
  | .receive => (l.receive, [])
  | .fire now => ((l.due now).2, (l.due now).1.map fun p => (p, now))

/-- **A run of the loop**: the loop after the events, and every push, in order. -/
def Loop.exec (l : Loop) : List Loop.Event → Loop × List (Pending × Nat)
  | [] => (l, [])
  | e :: es =>
    let r := (l.step e).1.exec es
    (r.1, (l.step e).2 ++ r.2)

/-- The deliveries a run posts, in posting order. -/
def Loop.posted : List Loop.Event → List Delivery
  | [] => []
  | .post d :: es => d :: posted es
  | .receive :: es => posted es
  | .fire _ :: es => posted es

/-- The posts of one event. -/
def Loop.Event.posts : Loop.Event → List Delivery
  | .post d => [d]
  | .receive => []
  | .fire _ => []

theorem Loop.posted_cons (e : Loop.Event) (es : List Loop.Event) :
    Loop.posted (e :: es) = e.posts ++ Loop.posted es := by
  cases e <;> rfl

/-! ## Sizes -/

theorem length_insertPending (p : Pending) (ps : List Pending) :
    (insertPending p ps).length = ps.length + 1 := by
  have h := congrArg List.length (List.takeWhile_append_dropWhile (p := fun q : Pending =>
    decide (q.deadline ≤ p.deadline)) (l := ps))
  simp only [List.length_append] at h
  simp only [insertPending, List.length_append, List.length_cons]
  omega

@[simp] theorem Loop.size_post (l : Loop) (d : Delivery) : (l.post d).size = l.size + 1 := by
  simp [Loop.post, Loop.size]
  omega

@[simp] theorem Loop.size_receive (l : Loop) : l.receive.size = l.size := by
  unfold Loop.receive
  split
  · rfl
  · next d ds h =>
    simp only [Loop.size, h, length_insertPending, List.length_cons]
    omega

@[simp] theorem Loop.channel_receive (l : Loop) : l.receive.channel = l.channel.tail := by
  unfold Loop.receive
  split <;> simp_all

theorem Loop.channel_repeat_receive (n : Nat) (l : Loop) :
    (Nat.repeat Loop.receive n l).channel = l.channel.drop n := by
  induction n with
  | zero => rfl
  | succ n ih => rw [Nat.repeat, Loop.channel_receive, ih, List.tail_drop]

theorem Loop.size_repeat_receive (n : Nat) (l : Loop) :
    (Nat.repeat Loop.receive n l).size = l.size := by
  induction n with
  | zero => rfl
  | succ n ih => simp only [Nat.repeat, Loop.size_receive, ih]

theorem Loop.receiveAll_pending_length (l : Loop) :
    l.receiveAll.pending.length = l.size := by
  have hc : l.receiveAll.channel = [] := by
    simp [Loop.receiveAll, Loop.channel_repeat_receive]
  have hs : l.receiveAll.size = l.size := Loop.size_repeat_receive _ l
  simpa [Loop.size, hc] using hs

theorem Loop.size_due (l : Loop) (now : Nat) :
    (l.due now).1.length + (l.due now).2.size = l.size := by
  have h := congrArg List.length (List.takeWhile_append_dropWhile (p := fun q : Pending =>
    decide (q.deadline ≤ now)) (l := l.pending))
  simp only [List.length_append] at h
  simp only [Loop.due, Loop.size]
  omega

/-- **What one event does to the count**: the deliveries held after it and those it pushed
are those held before, and one more for a post. -/
theorem Loop.size_step (l : Loop) (e : Loop.Event) :
    (l.step e).1.size + (l.step e).2.length = l.size + e.posts.length := by
  cases e with
  | post d => simp [Loop.step, Loop.Event.posts]
  | receive => simp [Loop.step, Loop.Event.posts]
  | fire now =>
    have h := Loop.size_due l now
    simp only [Loop.step, List.length_map, Loop.Event.posts, List.length_nil]
    omega

theorem Loop.size_exec (l : Loop) (es : List Loop.Event) :
    (l.exec es).1.size + (l.exec es).2.length = l.size + (Loop.posted es).length := by
  induction es generalizing l with
  | nil => simp [Loop.exec, Loop.posted]
  | cons e es ih =>
    have hs := Loop.size_step l e
    have hr := ih (l.step e).1
    simp only [Loop.exec, List.length_append, Loop.posted_cons]
    omega

/-! ## The leaving order

The pending deliveries are kept in the order of the heap: by deadline, and at equal deadlines by
arrival number. In that order the deliveries due at a reading are a prefix, so taking them while
they are due takes exactly those that are due. -/

/-- Pending `a` leaves before pending `b`: an earlier deadline, or the same deadline and an
earlier arrival. -/
def Pending.Before (a b : Pending) : Prop :=
  a.deadline < b.deadline ∨ (a.deadline = b.deadline ∧ a.seq < b.seq)

theorem Pending.Before.not_symm {a b : Pending} (h : a.Before b) : ¬ b.Before a := by
  unfold Pending.Before at *
  omega

theorem takeWhile_due_eq_filter {ps : List Pending} (h : ps.Pairwise Pending.Before) (now : Nat) :
    ps.takeWhile (fun q => decide (q.deadline ≤ now)) =
      ps.filter (fun q => decide (q.deadline ≤ now)) := by
  induction ps with
  | nil => rfl
  | cons q qs ih =>
    rw [List.pairwise_cons] at h
    by_cases hq : q.deadline ≤ now
    · simp [hq, ih h.2]
    · -- every later delivery leaves later, so none of them is due either
      have hnone : qs.filter (fun q => decide (q.deadline ≤ now)) = [] := by
        rw [List.filter_eq_nil_iff]
        intro q' hq'
        have := h.1 q' hq'
        unfold Pending.Before at this
        simp only [decide_eq_true_eq]
        omega
      simp [hq, hnone]

theorem dropWhile_due_eq_filter {ps : List Pending} (h : ps.Pairwise Pending.Before) (now : Nat) :
    ps.dropWhile (fun q => decide (q.deadline ≤ now)) =
      ps.filter (fun q => !decide (q.deadline ≤ now)) := by
  induction ps with
  | nil => rfl
  | cons q qs ih =>
    rw [List.pairwise_cons] at h
    by_cases hq : q.deadline ≤ now
    · simp [hq, ih h.2]
    · have hall : qs.filter (fun q => !decide (q.deadline ≤ now)) = qs := by
        rw [List.filter_eq_self]
        intro q' hq'
        have := h.1 q' hq'
        unfold Pending.Before at this
        simp only [Bool.not_eq_true', decide_eq_false_iff_not]
        omega
      simp [hq, hall]

theorem insertPending_perm (p : Pending) (ps : List Pending) :
    (insertPending p ps).Perm (p :: ps) := by
  unfold insertPending
  have h : (ps.takeWhile (fun q => decide (q.deadline ≤ p.deadline)) ++
      p :: ps.dropWhile (fun q => decide (q.deadline ≤ p.deadline))).Perm
      (p :: (ps.takeWhile (fun q => decide (q.deadline ≤ p.deadline)) ++
        ps.dropWhile (fun q => decide (q.deadline ≤ p.deadline)))) := List.perm_middle
  rwa [List.takeWhile_append_dropWhile] at h

theorem insertPending_sorted {p : Pending} {ps : List Pending} (h : ps.Pairwise Pending.Before)
    (hlate : ∀ q ∈ ps, q.seq < p.seq) : (insertPending p ps).Pairwise Pending.Before := by
  unfold insertPending
  rw [takeWhile_due_eq_filter h, dropWhile_due_eq_filter h, List.pairwise_append,
    List.pairwise_cons]
  refine ⟨h.sublist (List.filter_sublist), ⟨?_, h.sublist (List.filter_sublist)⟩, ?_⟩
  · intro q hq
    simp only [List.mem_filter, Bool.not_eq_true', decide_eq_false_iff_not] at hq
    exact .inl (by omega)
  · intro a ha c hc
    simp only [List.mem_filter, decide_eq_true_eq] at ha
    rcases List.mem_cons.1 hc with rfl | hc
    · exact (Nat.lt_or_eq_of_le ha.2).elim .inl fun he => .inr ⟨he, hlate a ha.1⟩
    · simp only [List.mem_filter, Bool.not_eq_true', decide_eq_false_iff_not] at hc
      exact .inl (by omega)

theorem pair_sublist_of_before {ps : List Pending} (h : ps.Pairwise Pending.Before)
    {a b : Pending} (ha : a ∈ ps) (hb : b ∈ ps) (hab : a.Before b) : [a, b].Sublist ps := by
  induction ps with
  | nil => simp at ha
  | cons q qs ih =>
    rw [List.pairwise_cons] at h
    rcases List.mem_cons.1 ha with rfl | ha'
    · rcases List.mem_cons.1 hb with rfl | hb'
      · unfold Pending.Before at hab; omega
      · exact List.cons_sublist_cons.2 (List.singleton_sublist.2 hb')
    · rcases List.mem_cons.1 hb with rfl | hb'
      · exact absurd (h.1 a ha') hab.not_symm
      · exact (ih h.2 ha' hb').cons q

theorem Loop.due_perm (l : Loop) (now : Nat) (pushed : List Pending) :
    ((l.due now).2.pending ++ (pushed ++ (l.due now).1)).Perm (l.pending ++ pushed) := by
  have hsplit : (l.due now).1 ++ (l.due now).2.pending = l.pending :=
    List.takeWhile_append_dropWhile
  rw [← hsplit]
  have hswap : ((l.due now).2.pending ++ ((l.due now).1 ++ pushed)).Perm
      ((l.due now).1 ++ (l.due now).2.pending ++ pushed) := by
    rw [← List.append_assoc]
    exact List.perm_append_comm.append_right pushed
  exact (List.perm_append_comm.append_left _).trans hswap

/-! ## What the loop owes its posts -/

/-- **The loop's invariant**, for the deliveries `ps` posted so far and those `pushed` so far, in
order: the channel holds the posts not yet received, oldest first; the pending deliveries are in
leaving order; every pending or pushed delivery is the post its arrival number names; every
received post is pending or pushed, exactly once; and no push overtook an earlier post whose
deadline was no later than its own. -/
structure Loop.Tracks (ps : List Delivery) (pushed : List Pending) (l : Loop) : Prop where
  channel : l.channel = ps.drop l.nextSeq
  received : l.nextSeq ≤ ps.length
  sorted : l.pending.Pairwise Pending.Before
  posted : ∀ q ∈ l.pending ++ pushed, ps[q.seq]? = some ⟨q.deadline, q.buffer⟩
  seqs : ((l.pending ++ pushed).map Pending.seq).Perm (List.range l.nextSeq)
  inOrder : ∀ (i j : Nat) (a c : Delivery), i < j → ps[i]? = some a → ps[j]? = some c →
    a.deadline ≤ c.deadline → j ∈ pushed.map Pending.seq →
    [i, j].Sublist (pushed.map Pending.seq)

variable {ps : List Delivery} {pushed : List Pending} {l : Loop}

theorem Loop.Tracks.empty : Loop.empty.Tracks [] [] :=
  ⟨rfl, Nat.le_refl 0, List.Pairwise.nil, by simp [Loop.empty], by simp [Loop.empty],
    by simp⟩

theorem Loop.Tracks.seq_lt (h : l.Tracks ps pushed) {q : Pending} (hq : q ∈ l.pending ++ pushed) :
    q.seq < l.nextSeq :=
  List.mem_range.1 (h.seqs.mem_iff.1 (List.mem_map_of_mem hq))

theorem Loop.Tracks.post (h : l.Tracks ps pushed) (d : Delivery) :
    (l.post d).Tracks (ps ++ [d]) pushed := by
  have hsame : ∀ i, i < l.nextSeq → (ps ++ [d])[i]? = ps[i]? := fun i hi =>
    List.getElem?_append_left (by have := h.received; omega)
  refine ⟨?_, ?_, h.sorted, ?_, h.seqs, ?_⟩
  · simp [Loop.post, h.channel, List.drop_append_of_le_length h.received]
  · simp only [Loop.post, List.length_append, List.length_singleton]
    have := h.received
    omega
  · intro q hq
    rw [hsame _ (h.seq_lt hq)]
    exact h.posted q hq
  · intro i j a c hij hi hj hac hjp
    obtain ⟨q, hq, rfl⟩ := List.mem_map.1 hjp
    have hj' := h.seq_lt (List.mem_append_right _ hq)
    rw [hsame _ (by omega)] at hi
    rw [hsame _ hj'] at hj
    exact h.inOrder i q.seq a c hij hi hj hac hjp

theorem Loop.receive_nil (h : l.channel = []) : l.receive = l := by
  simp [Loop.receive, h]

theorem Loop.receive_cons {d : Delivery} {ds : List Delivery} (h : l.channel = d :: ds) :
    l.receive = ⟨ds, insertPending ⟨d.deadline, l.nextSeq, d.buffer⟩ l.pending, l.nextSeq + 1⟩ := by
  simp [Loop.receive, h]

theorem Loop.Tracks.receive (h : l.Tracks ps pushed) : l.receive.Tracks ps pushed := by
  cases hc : l.channel with
  | nil => rw [Loop.receive_nil hc]; exact h
  | cons d ds =>
    have hdrop : ps.drop l.nextSeq = d :: ds := h.channel.symm.trans hc
    have hd : ps[l.nextSeq]? = some d := by
      have := congrArg (fun xs => xs[0]?) hdrop
      simpa [List.getElem?_drop] using this
    have hlen : l.nextSeq < ps.length := by
      have := congrArg List.length hdrop
      simp only [List.length_drop, List.length_cons] at this
      omega
    have hperm : (insertPending ⟨d.deadline, l.nextSeq, d.buffer⟩ l.pending ++ pushed).Perm
        (⟨d.deadline, l.nextSeq, d.buffer⟩ :: (l.pending ++ pushed)) :=
      (insertPending_perm _ l.pending).append_right pushed
    rw [Loop.receive_cons hc]
    refine ⟨?_, hlen, insertPending_sorted h.sorted
      fun q hq => h.seq_lt (List.mem_append_left _ hq), ?_, ?_, h.inOrder⟩
    · show ds = ps.drop (l.nextSeq + 1)
      rw [← List.tail_drop, hdrop]
      rfl
    · intro q hq
      rcases List.mem_cons.1 (hperm.mem_iff.1 hq) with rfl | hq'
      · exact hd
      · exact h.posted q hq'
    · show ((insertPending _ l.pending ++ pushed).map Pending.seq).Perm
        (List.range (l.nextSeq + 1))
      rw [List.range_succ]
      exact (hperm.map Pending.seq).trans
        ((h.seqs.cons l.nextSeq).trans (List.perm_append_singleton _ _).symm)

theorem Loop.Tracks.fire (h : l.Tracks ps pushed) (now : Nat) :
    (l.due now).2.Tracks ps (pushed ++ (l.due now).1) := by
  have hdue : (l.due now).1 = l.pending.filter (fun q => decide (q.deadline ≤ now)) :=
    takeWhile_due_eq_filter h.sorted now
  have hrest : (l.due now).2.pending = l.pending.filter (fun q => !decide (q.deadline ≤ now)) :=
    dropWhile_due_eq_filter h.sorted now
  have hsplit : (l.due now).1 ++ (l.due now).2.pending = l.pending :=
    List.takeWhile_append_dropWhile
  have hperm := l.due_perm now pushed
  refine ⟨h.channel, h.received, ?_, fun q hq => h.posted q (hperm.mem_iff.1 hq),
    (hperm.map _).trans h.seqs, ?_⟩
  · rw [hrest]
    exact h.sorted.sublist List.filter_sublist
  · intro i j a c hij hi hj hac hjp
    rw [List.map_append] at hjp ⊢
    rcases List.mem_append.1 hjp with hjp | hjd
    · exact (h.inOrder i j a c hij hi hj hac hjp).trans (List.sublist_append_left _ _)
    obtain ⟨qc, hqc, rfl⟩ := List.mem_map.1 hjd
    have hqcp : qc ∈ l.pending := by rw [← hsplit]; exact List.mem_append_left _ hqc
    have hcnow : qc.deadline ≤ now := by
      rw [hdue] at hqc
      simpa using (List.mem_filter.1 hqc).2
    rw [h.posted qc (List.mem_append_left _ hqcp)] at hj
    cases hj
    obtain ⟨qa, hqa, rfl⟩ := List.mem_map.1 (h.seqs.mem_iff.2 (List.mem_range.2
      (Nat.lt_trans hij (h.seq_lt (List.mem_append_left _ hqcp)))))
    rw [h.posted qa hqa] at hi
    cases hi
    rcases List.mem_append.1 hqa with hqa | hqa
    · -- still pending: it leaves before `qc`, so it is due and pushed in the same batch
      have hbefore : qa.Before qc := by
        dsimp only at hac
        unfold Pending.Before
        omega
      have hpair := (pair_sublist_of_before h.sorted hqa hqcp hbefore).filter
        (fun q => decide (q.deadline ≤ now))
      rw [← hdue, List.filter_cons_of_pos (by simpa using Nat.le_trans hac hcnow),
        List.filter_cons_of_pos (by simpa using hcnow), List.filter_nil] at hpair
      exact (hpair.map Pending.seq).trans (List.sublist_append_right _ _)
    · -- pushed already, before the whole batch
      exact (List.singleton_sublist.2 (List.mem_map_of_mem hqa)).append
        (List.singleton_sublist.2 hjd)

/-! ## Runs -/

theorem Loop.Tracks.step (h : l.Tracks ps pushed) (e : Loop.Event) :
    (l.step e).1.Tracks (ps ++ e.posts) (pushed ++ (l.step e).2.map Prod.fst) := by
  cases e with
  | post d => simpa [Loop.step, Loop.Event.posts] using h.post d
  | receive => simpa [Loop.step, Loop.Event.posts] using h.receive
  | fire now => simpa [Loop.step, Loop.Event.posts, List.map_map, Function.comp_def] using h.fire now

/-- A run keeps the invariant, with its posts and its pushes added. -/
theorem Loop.Tracks.exec (h : l.Tracks ps pushed) (es : List Loop.Event) :
    (l.exec es).1.Tracks (ps ++ Loop.posted es) (pushed ++ (l.exec es).2.map Prod.fst) := by
  induction es generalizing l ps pushed with
  | nil => simpa [Loop.exec, Loop.posted] using h
  | cons e es ih =>
    have hr := ih (h.step e)
    simpa [Loop.exec, Loop.posted_cons, List.append_assoc] using hr

theorem Loop.step_pushed_due (l : Loop) (e : Loop.Event) :
    ∀ x ∈ (l.step e).2, x.1.deadline ≤ x.2 := by
  cases e with
  | post d => simp [Loop.step]
  | receive => simp [Loop.step]
  | fire now =>
    intro x hx
    obtain ⟨q, hq, rfl⟩ := List.mem_map.1 hx
    simpa using List.all_eq_true.1 List.all_takeWhile q hq

/-- **No delivery leaves before its deadline.** -/
theorem Loop.exec_pushed_due (l : Loop) (es : List Loop.Event) :
    ∀ x ∈ (l.exec es).2, x.1.deadline ≤ x.2 := by
  induction es generalizing l with
  | nil => simp [Loop.exec]
  | cons e es ih =>
    intro x hx
    rcases List.mem_append.1 hx with hx | hx
    · exact Loop.step_pushed_due l e x hx
    · exact ih _ x hx

/-- **The delivery loop keeps its promises.** Start the loop empty and run any interleaving of
posts, receptions and firings, then quit. Number the posts in posting order. Every push is the
post its number names, pushed at a reading no earlier than its deadline, and no post is pushed
twice; the pushes and the deliveries discarded when quitting are the posts, no more and no fewer;
and a pushed post was preceded, among the pushes, by every earlier post whose deadline was no
later than its own. -/
theorem delivery_loop_keeps_order (es : List Loop.Event) :
    let r := Loop.empty.exec es
    let order := r.2.map fun x => x.1.seq
    order.Nodup ∧
      (∀ q now, (q, now) ∈ r.2 →
        (Loop.posted es)[q.seq]? = some ⟨q.deadline, q.buffer⟩ ∧ q.deadline ≤ now) ∧
      r.2.length + r.1.receiveAll.pending.length = (Loop.posted es).length ∧
      ∀ (i j : Nat) (a c : Delivery), i < j → (Loop.posted es)[i]? = some a →
        (Loop.posted es)[j]? = some c → a.deadline ≤ c.deadline → j ∈ order →
        [i, j].Sublist order := by
  intro r order
  have h : r.1.Tracks (Loop.posted es) (r.2.map Prod.fst) := by
    simpa using Loop.Tracks.empty.exec es
  have horder : order = (r.2.map Prod.fst).map Pending.seq := by
    simp [order, List.map_map, Function.comp_def]
  have hnd : ((r.1.pending ++ r.2.map Prod.fst).map Pending.seq).Nodup :=
    h.seqs.nodup_iff.2 List.nodup_range
  rw [List.map_append] at hnd
  have hcount : r.1.size + r.2.length = Loop.empty.size + (Loop.posted es).length :=
    Loop.size_exec Loop.empty es
  have hempty : Loop.empty.size = 0 := rfl
  rw [← Loop.receiveAll_pending_length] at hcount
  refine ⟨horder ▸ hnd.sublist (List.sublist_append_right _ _), ?_, ?_, ?_⟩
  · intro q now hq
    exact ⟨h.posted q (List.mem_append_right _ (List.mem_map_of_mem hq)),
      Loop.exec_pushed_due Loop.empty es (q, now) hq⟩
  · omega
  · rw [horder]
    exact h.inOrder

/-- The order is promised only to a later post whose deadline is no earlier: a later post with an
earlier deadline overtakes. -/
example :
    ((Loop.empty.exec [.post ⟨10, Buffer.filled 1 0 none⟩, .post ⟨5, Buffer.filled 1 1 none⟩,
      .receive, .receive, .fire 10]).2.map fun x => x.1.seq) = [1, 0] := by
  decide

end TrafficShaper
