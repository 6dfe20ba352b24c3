/-
  File:      JobKeeper/Proofs/Lifecycle.lean
  Subject:   In which order the components of a service are called, and what is undone when one of
             them refuses.

  Components may answer as they like and remember all that went before, so a run is described by
  their answers:

  * `answersTo`, `RefusesFirst`: the answers of components called one after the other, and the
    first refusal among them;
  * `initEach_append`, `startEach_append`, `stopEach_eq`: what the components that accept bring
    about, whatever comes after them, and how components are stopped;
  * `start_calls_in_order`: the whole of a start, and the shutdown that follows it.
-/
import JobKeeper.Lifecycle

namespace JobKeeper

variable {σ : Type}

/-! ## 1. Answers -/

/-- The answers of components that are called with a hook one after the other, each in the state
    that the one before it left. -/
def answersTo (hook : Hook) : List (Component σ) → σ → List (HookAnswer σ)
  | [], _ => []
  | c :: rest, state => c.call hook state :: answersTo hook rest (c.call hook state).state

/-- The state that answers leave. -/
def stateAfter (state : σ) (answers : List (HookAnswer σ)) : σ :=
  answers.foldl (fun _ a => a.state) state

/-- No answer is a refusal. -/
def Accepted (answers : List (HookAnswer σ)) : Prop := ∀ a ∈ answers, a.failure = none

/-- **The first refusal** is that at `k`, with this error. -/
def RefusesFirst (answers : List (HookAnswer σ)) (k : Nat) (failure : String) : Prop :=
  Accepted (answers.take k) ∧ ∃ a, answers[k]? = some a ∧ a.failure = some failure

/-- What components log when they are called. -/
def ownLines (answers : List (HookAnswer σ)) : List Log.Line := answers.flatMap (·.logs)

/-- What is logged while components stop: what each of them logs, and one warning more for each
    that refuses. -/
def stopLines (answers : List (HookAnswer σ)) : List Log.Line :=
  answers.flatMap fun a => a.logs ++ (a.failure.map shutdownErrorLine).toList

/-- The calls of the components at these places, in this order. -/
def callsAt (hook : Hook) (places : List Nat) : List HookCall := places.map (HookCall.mk hook)

section Answers

variable (hook : Hook)

@[simp] theorem answersTo_cons (c : Component σ) (rest : List (Component σ)) (state : σ) :
    answersTo hook (c :: rest) state =
      c.call hook state :: answersTo hook rest (c.call hook state).state := rfl

@[simp] theorem stateAfter_cons (state : σ) (a : HookAnswer σ) (answers : List (HookAnswer σ)) :
    stateAfter state (a :: answers) = stateAfter a.state answers := rfl

@[simp] theorem ownLines_cons (a : HookAnswer σ) (answers : List (HookAnswer σ)) :
    ownLines (a :: answers) = a.logs ++ ownLines answers := List.flatMap_cons

@[simp] theorem stopLines_cons (a : HookAnswer σ) (answers : List (HookAnswer σ)) :
    stopLines (a :: answers) =
      a.logs ++ (a.failure.map shutdownErrorLine).toList ++ stopLines answers := List.flatMap_cons

theorem answersTo_append (first later : List (Component σ)) (state : σ) :
    answersTo hook (first ++ later) state =
      answersTo hook first state ++
        answersTo hook later (stateAfter state (answersTo hook first state)) := by
  induction first generalizing state with
  | nil => rfl
  | cons c first ih =>
    rw [List.cons_append, answersTo_cons, ih]
    rfl

theorem length_answersTo (cs : List (Component σ)) (state : σ) :
    (answersTo hook cs state).length = cs.length := by
  induction cs generalizing state with
  | nil => rfl
  | cons c cs ih => exact congrArg (· + 1) (ih _)

/-- The first answers are those of the first components. -/
theorem take_answersTo (cs : List (Component σ)) (state : σ) (k : Nat) :
    (answersTo hook cs state).take k = answersTo hook (cs.take k) state := by
  induction cs generalizing state k with
  | nil => simp [answersTo]
  | cons c cs ih =>
    cases k with
    | zero => rfl
    | succ k => exact congrArg (c.call hook state :: ·) (ih _ k)

/-- Components accept all, or one of them is the first to refuse. -/
theorem accepted_or_refuses (answers : List (HookAnswer σ)) :
    Accepted answers ∨ ∃ k failure, RefusesFirst answers k failure := by
  induction answers with
  | nil => exact Or.inl fun a ha => absurd ha List.not_mem_nil
  | cons a answers ih =>
    cases ha : a.failure with
    | some failure =>
      exact Or.inr ⟨0, failure, fun b hb => absurd hb List.not_mem_nil, a, rfl, ha⟩
    | none =>
      rcases ih with accepted | ⟨k, failure, before, b, hb, hfailure⟩
      · exact Or.inl (List.forall_mem_cons.mpr ⟨ha, accepted⟩)
      · exact Or.inr ⟨k + 1, failure, List.forall_mem_cons.mpr ⟨ha, before⟩, b, hb, hfailure⟩

/-- **The component that is the first to refuse** stands behind those that accept. -/
theorem RefusesFirst.split {hook : Hook} {cs : List (Component σ)} {state : σ} {k : Nat}
    {failure : String} (h : RefusesFirst (answersTo hook cs state) k failure) :
    ∃ done c rest, cs = done ++ c :: rest ∧ done.length = k ∧
      Accepted (answersTo hook done state) ∧
      (c.call hook (stateAfter state (answersTo hook done state))).failure = some failure := by
  obtain ⟨accepted, a, ha, hfailure⟩ := h
  have hk : k < cs.length := by
    have hlt := (List.getElem?_eq_some_iff.mp ha).1
    rwa [length_answersTo] at hlt
  have hsplit : cs = cs.take k ++ cs[k] :: cs.drop (k + 1) := by
    rw [← List.drop_eq_getElem_cons hk, List.take_append_drop]
  have hlen : (cs.take k).length = k := by
    rw [List.length_take]
    omega
  refine ⟨cs.take k, cs[k], cs.drop (k + 1), hsplit, hlen,
    take_answersTo hook cs state k ▸ accepted, ?_⟩
  have hlength : (answersTo hook (cs.take k) state).length = k := by
    rw [length_answersTo, hlen]
  have hle := Nat.le_of_eq hlength
  -- the answer at `k` is that of the component behind the first `k`
  rw [hsplit, answersTo_append, List.getElem?_append_right hle, hlength,
    Nat.sub_self] at ha
  have hcall := Option.some.inj ha
  rw [hcall, hfailure]

/-- The answers up to the one of a component that stands behind others. -/
theorem take_answersTo_cons (done : List (Component σ)) (c : Component σ)
    (rest : List (Component σ)) (state : σ) :
    (answersTo hook (done ++ c :: rest) state).take (done.length + 1) =
      answersTo hook done state ++
        [c.call hook (stateAfter state (answersTo hook done state))] := by
  have hfirst : (done ++ c :: rest).take (done.length + 1) = done ++ [c] := by
    rw [List.take_length_add_append]
    rfl
  rw [take_answersTo, hfirst, answersTo_append]
  rfl

end Answers

/-! ## 2. Components in order -/

/-- The components of a list that has their places with them. -/
def unplaced (l : List (Attached σ)) : List (Component σ) := l.map Prod.fst

/-- The calls of such components. -/
def placedCalls (hook : Hook) (l : List (Attached σ)) : List HookCall :=
  callsAt hook (l.map Prod.snd)

@[simp] theorem unplaced_cons (a : Attached σ) (l : List (Attached σ)) :
    unplaced (a :: l) = a.1 :: unplaced l := rfl

@[simp] theorem placedCalls_cons (hook : Hook) (a : Attached σ) (l : List (Attached σ)) :
    placedCalls hook (a :: l) = ⟨hook, a.2⟩ :: placedCalls hook l := rfl

/-- **Components that are prepared** are called in order, whatever comes after them. -/
theorem initEach_append (done : List (Attached σ)) {state : σ}
    (h : Accepted (answersTo .init (unplaced done) state)) (rest : List (Attached σ)) :
    initEach (done ++ rest) state =
      let answers := answersTo .init (unplaced done) state
      let later := initEach rest (stateAfter state answers)
      { later with
        calls := placedCalls .init done ++ later.calls
        logs := ownLines answers ++ later.logs } := by
  induction done generalizing state with
  | nil => rfl
  | cons a done ih =>
    obtain ⟨c, position⟩ := a
    have first : (c.call .init state).failure = none := h _ List.mem_cons_self
    have others : Accepted (answersTo .init (unplaced done) (c.call .init state).state) :=
      fun a ha => h a (List.mem_cons_of_mem _ ha)
    simp only [List.cons_append, initEach, first, ih others, HookRun.afterCall]
    simp only [unplaced_cons, answersTo_cons, placedCalls_cons, ownLines_cons, stateAfter_cons,
      List.cons_append, List.append_assoc]

theorem initEach_of_refusal {c : Component σ} {state : σ} {failure : String}
    (h : (c.call .init state).failure = some failure) (position : Nat)
    (rest : List (Attached σ)) :
    initEach ((c, position) :: rest) state =
      { failure := some failure
        calls := [⟨.init, position⟩]
        logs := (c.call .init state).logs
        state := (c.call .init state).state } := by
  simp only [initEach, h, HookRun.afterCall, List.append_nil]

/-- **All components are stopped**, one after the other, whichever of them refuse. -/
theorem stopEach_eq (l : List (Attached σ)) (state : σ) :
    stopEach l state =
      let answers := answersTo .shutdown (unplaced l) state
      { failure := none
        calls := placedCalls .shutdown l
        logs := stopLines answers
        state := stateAfter state answers } := by
  induction l generalizing state with
  | nil => rfl
  | cons a l ih =>
    obtain ⟨c, position⟩ := a
    simp only [stopEach, ih, HookRun.afterCall, HookRun.after]
    simp only [unplaced_cons, answersTo_cons, placedCalls_cons, stopLines_cons, stateAfter_cons,
      List.append_assoc]

/-- **Components that start** are called in order, and whatever comes after them knows them as
    started, the latest first. -/
theorem startEach_append (done : List (Attached σ)) {state : σ}
    (h : Accepted (answersTo .start (unplaced done) state)) (started rest : List (Attached σ)) :
    startEach started (done ++ rest) state =
      let answers := answersTo .start (unplaced done) state
      let later := startEach (done.reverse ++ started) rest (stateAfter state answers)
      { later with
        calls := placedCalls .start done ++ later.calls
        logs := ownLines answers ++ later.logs } := by
  induction done generalizing state started with
  | nil => rfl
  | cons a done ih =>
    obtain ⟨c, position⟩ := a
    have first : (c.call .start state).failure = none := h _ List.mem_cons_self
    have others : Accepted (answersTo .start (unplaced done) (c.call .start state).state) :=
      fun a ha => h a (List.mem_cons_of_mem _ ha)
    simp only [List.cons_append, startEach, first, ih others, HookRun.afterCall]
    simp only [unplaced_cons, answersTo_cons, placedCalls_cons, ownLines_cons, stateAfter_cons,
      List.reverse_cons, List.cons_append, List.append_assoc, List.nil_append]

/-- A component that refuses to start has those started before it stopped. -/
theorem startEach_of_refusal {c : Component σ} {state : σ} {failure : String}
    (h : (c.call .start state).failure = some failure) (position : Nat)
    (started rest : List (Attached σ)) :
    startEach started ((c, position) :: rest) state =
      let refused := (c.call .start state).state
      let stops := answersTo .shutdown (unplaced started) refused
      { failure := some failure
        calls := ⟨.start, position⟩ :: placedCalls .shutdown started
        logs := (c.call .start state).logs ++ startFailedLine started.length :: stopLines stops
        state := stateAfter refused stops } := by
  simp only [startEach, h, stopEach_eq, HookRun.afterCall, HookRun.after]
  rfl

/-! ## 3. Components with their places -/

section Attached

theorem unplaced_zipIdx (cs : List (Component σ)) : unplaced cs.zipIdx = cs :=
  List.zipIdx_map_fst 0 cs

theorem placedCalls_zipIdx (hook : Hook) (cs : List (Component σ)) :
    placedCalls hook cs.zipIdx = callsAt hook (List.range cs.length) := by
  rw [placedCalls, List.zipIdx_map_snd, List.range_eq_range']

/-- Places that are gone through from the last on. -/
theorem callsAt_reverse (hook : Hook) (places : List Nat) :
    callsAt hook places.reverse = (callsAt hook places).reverse := List.map_reverse

theorem unplaced_zipIdx_reverse (cs : List (Component σ)) :
    unplaced cs.zipIdx.reverse = cs.reverse := by
  rw [unplaced, List.map_reverse, List.zipIdx_map_fst]

theorem placedCalls_zipIdx_reverse (hook : Hook) (cs : List (Component σ)) :
    placedCalls hook cs.zipIdx.reverse = callsAt hook (List.range cs.length).reverse := by
  rw [callsAt_reverse, ← placedCalls_zipIdx, placedCalls, List.map_reverse, callsAt_reverse]
  rfl

theorem zipIdx_append_cons (done : List (Component σ)) (c : Component σ)
    (rest : List (Component σ)) :
    (done ++ c :: rest).zipIdx =
      done.zipIdx ++ (c, done.length) :: rest.zipIdx (done.length + 1) := by
  rw [List.zipIdx_append, Nat.zero_add, List.zipIdx_cons]

theorem callsAt_succ (hook : Hook) (k : Nat) :
    callsAt hook (List.range (k + 1)) = callsAt hook (List.range k) ++ [⟨hook, k⟩] := by
  rw [List.range_succ, callsAt, List.map_append]
  rfl

theorem ownLines_concat (first : List (HookAnswer σ)) (last : HookAnswer σ) :
    ownLines (first ++ [last]) = ownLines first ++ last.logs := by
  rw [ownLines, List.flatMap_append, List.flatMap_singleton, ownLines]

theorem stateAfter_concat (state : σ) (first : List (HookAnswer σ)) (last : HookAnswer σ) :
    stateAfter state (first ++ [last]) = last.state := by
  rw [stateAfter, List.foldl_append]
  rfl

variable {cs : List (Component σ)} {state : σ}

theorem initEach_of_accepted (h : Accepted (answersTo .init cs state)) :
    let answers := answersTo .init cs state
    initEach cs.zipIdx state =
      { failure := none
        calls := callsAt .init (List.range cs.length)
        logs := ownLines answers
        state := stateAfter state answers } := by
  have hinit := initEach_append cs.zipIdx (by rwa [unplaced_zipIdx]) []
  rw [List.append_nil, unplaced_zipIdx, placedCalls_zipIdx] at hinit
  rw [hinit]
  simp [initEach]

/-- **A refusal to be prepared** ends the calls: what was called is not called again. -/
theorem initEach_of_refuses {k : Nat} {failure : String}
    (h : RefusesFirst (answersTo .init cs state) k failure) :
    let answers := (answersTo .init cs state).take (k + 1)
    initEach cs.zipIdx state =
      { failure := some failure
        calls := callsAt .init (List.range (k + 1))
        logs := ownLines answers
        state := stateAfter state answers } := by
  obtain ⟨done, c, rest, rfl, rfl, accepted, refused⟩ := h.split
  have hinit := initEach_append done.zipIdx (by rwa [unplaced_zipIdx])
    ((c, done.length) :: rest.zipIdx (done.length + 1))
  simp only [unplaced_zipIdx, placedCalls_zipIdx, initEach_of_refusal refused] at hinit
  rw [zipIdx_append_cons, hinit, take_answersTo_cons, callsAt_succ]
  simp only [ownLines_concat, stateAfter_concat]

theorem startEach_of_accepted (h : Accepted (answersTo .start cs state)) :
    let answers := answersTo .start cs state
    startEach [] cs.zipIdx state =
      { failure := none
        calls := callsAt .start (List.range cs.length)
        logs := ownLines answers
        state := stateAfter state answers } := by
  have hstart := startEach_append cs.zipIdx (by rwa [unplaced_zipIdx]) [] []
  rw [List.append_nil, unplaced_zipIdx, placedCalls_zipIdx] at hstart
  rw [hstart]
  simp [startEach]

/-- **A refusal to start** has the components before it stopped, the latest first. -/
theorem startEach_of_refuses {k : Nat} {failure : String}
    (h : RefusesFirst (answersTo .start cs state) k failure) :
    let answers := (answersTo .start cs state).take (k + 1)
    let refused := stateAfter state answers
    let stops := answersTo .shutdown (cs.take k).reverse refused
    startEach [] cs.zipIdx state =
      { failure := some failure
        calls := callsAt .start (List.range (k + 1)) ++ callsAt .shutdown (List.range k).reverse
        logs := ownLines answers ++ startFailedLine k :: stopLines stops
        state := stateAfter refused stops } := by
  obtain ⟨done, c, rest, rfl, rfl, accepted, refused⟩ := h.split
  have hstart := startEach_append done.zipIdx (by rwa [unplaced_zipIdx]) []
    ((c, done.length) :: rest.zipIdx (done.length + 1))
  simp only [unplaced_zipIdx, placedCalls_zipIdx, List.append_nil, startEach_of_refusal refused,
    unplaced_zipIdx_reverse, placedCalls_zipIdx_reverse, List.length_reverse,
    List.length_zipIdx] at hstart
  rw [zipIdx_append_cons, hstart, take_answersTo_cons, callsAt_succ, List.take_left]
  simp only [ownLines_concat, stateAfter_concat, List.append_assoc, List.singleton_append]

/-- **A shutdown** stops every component, the latest first. -/
theorem shutdown_eq (l : Lifecycle σ) (state : σ) :
    let stops := answersTo .shutdown l.components.reverse state
    l.shutdown state =
      ({ l with phase := .shutdown },
       { failure := none
         calls := callsAt .shutdown (List.range l.components.length).reverse
         logs := Phase.shutdown.line :: stopLines stops
         state := stateAfter state stops }) := by
  rw [Lifecycle.shutdown, Lifecycle.attached, stopEach_eq, unplaced_zipIdx_reverse,
    placedCalls_zipIdx_reverse]
  rfl

end Attached

/-! ## 4. Start and shutdown -/

/-- **Components are started in order, and a failed start is undone.** They are prepared in the
    order of their attachment, up to the first that refuses; its error ends the start in the phase
    `init`, and nothing is started or stopped. If none refuses they are started in the same order.
    If the one at `k` is the first to refuse, exactly those before it are stopped, once each and the
    latest first, whichever of these refuse in turn; the start ends with the error of the one at `k`
    and stays in the phase `starting`. If none refuses the service is ready and nothing was stopped.
    One of the three is always the case. A shutdown that follows stops every component once, the
    latest first, whatever they answer, and succeeds. Each component that refuses to stop has one
    warning of its own. -/
theorem start_calls_in_order (l : Lifecycle σ) (state : σ) :
    let inits := answersTo .init l.components state
    let prepared := stateAfter state inits
    let starts := answersTo .start l.components prepared
    let everyInit := callsAt .init (List.range l.components.length)
    (∀ k failure, RefusesFirst inits k failure →
      l.start state =
        ({ l with phase := .init },
         { failure := some failure
           calls := callsAt .init (List.range (k + 1))
           logs := Phase.init.line :: ownLines (inits.take (k + 1))
           state := stateAfter state (inits.take (k + 1)) })) ∧
    (Accepted inits → ∀ k failure, RefusesFirst starts k failure →
      let refused := stateAfter prepared (starts.take (k + 1))
      let stops := answersTo .shutdown (l.components.take k).reverse refused
      l.start state =
        ({ l with phase := .starting },
         { failure := some failure
           calls := everyInit ++ (callsAt .start (List.range (k + 1)) ++
             callsAt .shutdown (List.range k).reverse)
           logs := Phase.init.line :: ownLines inits ++ Phase.starting.line ::
             (ownLines (starts.take (k + 1)) ++ startFailedLine k :: stopLines stops)
           state := stateAfter refused stops })) ∧
    (Accepted inits → Accepted starts →
      l.start state =
        ({ l with phase := .ready },
         { failure := none
           calls := everyInit ++ callsAt .start (List.range l.components.length)
           logs := Phase.init.line :: ownLines inits ++ Phase.starting.line :: ownLines starts ++
             [Phase.ready.line]
           state := stateAfter prepared starts })) ∧
    ((∃ k failure, RefusesFirst inits k failure) ∨
      Accepted inits ∧ ((∃ k failure, RefusesFirst starts k failure) ∨ Accepted starts)) ∧
    ∀ later,
      let stops := answersTo .shutdown l.components.reverse later
      (l.start state).1.shutdown later =
        ({ l with phase := .shutdown },
         { failure := none
           calls := callsAt .shutdown (List.range l.components.length).reverse
           logs := Phase.shutdown.line :: stopLines stops
           state := stateAfter later stops }) := by
  intro inits prepared starts everyInit
  refine ⟨fun k failure h => ?_, fun hinits k failure h => ?_, fun hinits hstarts => ?_, ?_,
    fun later => ?_⟩
  · rw [Lifecycle.start, Lifecycle.attached, initEach_of_refuses h]
    rfl
  · rw [Lifecycle.start, Lifecycle.attached, initEach_of_accepted hinits]
    simp only [HookRun.after]
    rw [startEach_of_refuses h]
    rfl
  · rw [Lifecycle.start, Lifecycle.attached, initEach_of_accepted hinits]
    simp only [HookRun.after]
    rw [startEach_of_accepted hstarts]
    rfl
  · rcases accepted_or_refuses inits with hinits | refused
    · exact Or.inr ⟨hinits, (accepted_or_refuses starts).symm⟩
    · exact Or.inl refused
  · have hcomponents : (l.start state).1 = { l with phase := (l.start state).1.phase } := by
      simp only [Lifecycle.start]
      split
      · rfl
      · split <;> rfl
    rw [hcomponents]
    exact shutdown_eq _ later

/-- A component that refuses one of the hooks and counts its calls. -/
def Component.refusing (hook : Hook) (failure : String) : Component Nat where
  call h n := { failure := if h = hook then some failure else none, state := n + 1 }

/-- Of three components the last does not start. The two before it are stopped, the second one
    first; the first one refuses that too, and its refusal is logged once. -/
theorem start_calls_in_order_port_taken :
    let service : Lifecycle Nat :=
      { components := [.refusing .shutdown "busy", .silent, .refusing .start "port taken"] }
    (service.start 0).1.phase = .starting ∧ (service.start 0).2.failure = some "port taken" ∧
      (service.start 0).2.calls =
        [⟨.init, 0⟩, ⟨.init, 1⟩, ⟨.init, 2⟩, ⟨.start, 0⟩, ⟨.start, 1⟩, ⟨.start, 2⟩,
         ⟨.shutdown, 1⟩, ⟨.shutdown, 0⟩] ∧
      (service.start 0).2.logs.map (·.text) =
        ["INFO Lifecycle phase: Init", "INFO Lifecycle phase: Starting",
         "WARN Component failed to start, stopping 2 started before it",
         "WARN Component shutdown error: busy"] := by
  intro service
  have accepted : Accepted (answersTo .init service.components 0) := by
    simp [Accepted, service, Component.refusing, Component.silent, answersTo]
  have refused : RefusesFirst (answersTo .start service.components 2) 2 "port taken" := by
    simp [RefusesFirst, Accepted, service, Component.refusing, Component.silent, answersTo]
  have started := (start_calls_in_order service 0).2.1 accepted 2 "port taken" refused
  rw [started]
  exact ⟨rfl, rfl, rfl, by decide⟩

end JobKeeper
