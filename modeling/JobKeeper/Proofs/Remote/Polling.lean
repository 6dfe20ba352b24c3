/-
  File:      JobKeeper/Proofs/Remote/Polling.lean
  Subject:   Running a statement on the gateway: one request submits it, then the result is asked
             for until it is decided or the attempts are used up.

  A client may answer as it likes and remember all that went before. What it would answer if it were
  asked for one result without end is a sequence of answers, and the first of them that decides the
  result says how the run goes.

  * `await_of_decided`, `await_of_open`: the two ways in which asking ends, by induction on the
    answers before the end;
  * `execute_recorded`: the client is given the requests to send that a run reports, and no others;
  * `execute_submits_once_and_polls`: the whole run.
-/
import JobKeeper.Proofs.Remote.Answers
import Mathlib.Data.List.TakeWhile

namespace JobKeeper

open Json (Doc Record)

/-! ## 1. Asking again and again -/

/-- The answers to one request that is made again after each pause. -/
def Transport.answers {σ : Type} (t : Transport σ) (request : Request) (interval : Nat) :
    σ → Nat → Transport.Answer
  | state, 0 => (t.answer request state).1
  | state, k + 1 => t.answers request interval (t.pause interval (t.answer request state).2) k

/-- So many times the same, with a pause between each two. -/
def looks (look : WireEvent) (interval n : Nat) : List WireEvent :=
  (List.replicate n look).intersperse (.paused interval)

theorem looks_succ (look : WireEvent) (interval : Nat) {n : Nat} (hn : n ≠ 0) :
    looks look interval (n + 1) = look :: .paused interval :: looks look interval n := by
  cases n with
  | zero => exact absurd rfl hn
  | succ n => rfl

/-! ## 2. Asking for a result -/

namespace Operation

/-- The request for a page of a result. -/
def look (o : Operation) (index : Nat) : Request := ⟨.get, o.resultEndpoint index, none⟩

section Await

variable {σ : Type} (o : Operation) (index : Nat) (t : Transport σ)

/-- One look at a result is one request. -/
theorem poll_eq (state : σ) :
    o.poll t index state =
      { result := pollOf (o.resultEndpoint index) (t.answer (o.look index) state).1
        trace := [t.event (o.look index)]
        state := (t.answer (o.look index) state).2 } := by
  let endpoint := o.resultEndpoint index
  have hassoc : pollOf endpoint (t.answer (o.look index) state).1 =
      bodyOf endpoint (t.answer (o.look index) state).1 >>= fun body =>
        readBody endpoint body ResultBody.ofDoc? >>= Poll.ofBody endpoint :=
    bind_assoc _ _ _
  rw [hassoc]
  rfl

variable {attempts : Nat} {state : σ}

/-- An answer that decides the result ends the asking. -/
theorem await_succ_of_decided {result : Except RemoteError OperationResult}
    (h : pollOf (o.resultEndpoint index) (t.answer (o.look index) state).1 =
      result.map Poll.ready) :
    o.await t index (attempts + 1) state =
      { result := result.mapError .remote, trace := [t.event (o.look index)],
        state := (t.answer (o.look index) state).2 } := by
  rw [await, poll_eq]
  dsimp only
  rw [h]
  cases result <;> rfl

/-- An answer that leaves the result open is followed by a pause and the other attempts. -/
theorem await_succ_of_open (hmore : attempts ≠ 0)
    (h : pollOf (o.resultEndpoint index) (t.answer (o.look index) state).1 = .ok .notReady) :
    let interval := o.session.gateway.policy.intervalMs
    o.await t index (attempts + 1) state =
      let later := o.await t index attempts
        (t.pause interval (t.answer (o.look index) state).2)
      { later with trace := t.event (o.look index) :: .paused interval :: later.trace } := by
  intro interval
  rw [await, poll_eq]
  dsimp only
  rw [h]
  dsimp only
  rw [if_neg hmore]
  rfl

/-- An answer that leaves the result open at the last attempt. -/
theorem await_one_of_open
    (h : pollOf (o.resultEndpoint index) (t.answer (o.look index) state).1 = .ok .notReady) :
    o.await t index 1 state =
      { result := .error o.timeout, trace := [t.event (o.look index)],
        state := (t.answer (o.look index) state).2 } := by
  rw [await, poll_eq]
  dsimp only
  rw [h]
  rfl

/-- **Asking ends with the first answer that decides the result**, if there are attempts for it. -/
theorem await_of_decided {k : Nat} (hk : k < attempts)
    (result : Except RemoteError OperationResult) :
    let interval := o.session.gateway.policy.intervalMs
    let answers := t.answers (o.look index) interval state
    (∀ j < k, NotReady (answers j)) → Settles (o.resultEndpoint index) (answers k) result →
      (o.await t index attempts state).trace =
        looks (t.event (o.look index)) interval (k + 1) ∧
      (o.await t index attempts state).result = result.mapError .remote := by
  intro interval
  induction k generalizing attempts state with
  | zero =>
    intro answers _ hsettles
    obtain ⟨attempts, rfl⟩ := Nat.exists_eq_succ_of_ne_zero (Nat.ne_of_gt hk)
    rw [await_succ_of_decided o index t (pollOf_of_settles hsettles)]
    exact ⟨rfl, rfl⟩
  | succ k ih =>
    intro answers hopen hsettles
    obtain ⟨attempts, rfl⟩ := Nat.exists_eq_succ_of_ne_zero (Nat.ne_of_gt (Nat.zero_lt_of_lt hk))
    have hmore : attempts ≠ 0 := by omega
    have hfirst := pollOf_of_notReady (o.resultEndpoint index) (hopen 0 (Nat.succ_pos k))
    obtain ⟨htrace, hresult⟩ := @ih attempts (t.pause interval (t.answer (o.look index) state).2)
      (Nat.lt_of_succ_lt_succ hk) (fun j hj => hopen (j + 1) (Nat.succ_lt_succ hj)) hsettles
    rw [await_succ_of_open o index t hmore hfirst, looks_succ _ interval (Nat.succ_ne_zero k)]
    exact ⟨by dsimp only; rw [htrace], hresult⟩

/-- **Asking ends without a result** once the attempts are used up. -/
theorem await_of_open (hpos : attempts ≠ 0) :
    let interval := o.session.gateway.policy.intervalMs
    (∀ j < attempts, NotReady (t.answers (o.look index) interval state j)) →
      (o.await t index attempts state).trace =
        looks (t.event (o.look index)) interval attempts ∧
      (o.await t index attempts state).result = .error o.timeout := by
  intro interval
  induction attempts generalizing state with
  | zero => exact absurd rfl hpos
  | succ attempts ih =>
    intro hopen
    have hfirst := pollOf_of_notReady (o.resultEndpoint index) (hopen 0 (Nat.succ_pos attempts))
    by_cases hlast : attempts = 0
    · subst hlast
      rw [await_one_of_open o index t hfirst]
      exact ⟨rfl, rfl⟩
    · obtain ⟨htrace, hresult⟩ := @ih (t.pause interval (t.answer (o.look index) state).2) hlast
        fun j hj => hopen (j + 1) (Nat.succ_lt_succ hj)
      rw [await_succ_of_open o index t hlast hfirst, looks_succ _ interval hlast]
      exact ⟨by dsimp only; rw [htrace], hresult⟩

end Await

end Operation

/-! ## 3. What a client is given to send -/

namespace Exchange

/-- The exchange as it goes with a record of the requests, those of before in it already. -/
def noted {σ α : Type} (e : Exchange σ α) (earlier : List Request) :
    Exchange (σ × List Request) α :=
  { result := e.result, trace := e.trace, state := (e.state, e.requests.reverse ++ earlier) }

theorem noted_mapResult {σ α β : Type} (f : α → β) (e : Exchange σ α) (earlier : List Request) :
    (e.mapResult f).noted earlier = (e.noted earlier).mapResult f := rfl

end Exchange

section Recorded

variable {σ : Type} (t : Transport σ)

/-- A request is recorded exactly if it is sent. -/
theorem request_recorded (method : Method) (endpoint : String) (body : Option Json) (state : σ)
    (earlier : List Request) :
    t.recorded.request method endpoint body (state, earlier) =
      (t.request method endpoint body state).noted earlier := by
  cases hrefuses : t.refuses endpoint with
  | some failure =>
    simp [Transport.request, Transport.answer, Transport.event, Transport.recorded, hrefuses,
      Exchange.noted, Exchange.requests]
  | none =>
    simp [Transport.request, Transport.answer, Transport.event, Transport.recorded, hrefuses,
      Exchange.noted, Exchange.requests]

theorem await_recorded (o : Operation) (index attempts : Nat) (state : σ)
    (earlier : List Request) :
    o.await t.recorded index attempts (state, earlier) =
      (o.await t index attempts state).noted earlier := by
  induction attempts generalizing state earlier with
  | zero => simp [Operation.await, Exchange.noted, Exchange.requests]
  | succ attempts ih =>
    have hlook : o.poll t.recorded index (state, earlier) =
        (o.poll t index state).noted earlier := by
      unfold Operation.poll
      dsimp only
      rw [request_recorded, Exchange.noted_mapResult]
    rw [Operation.await, Operation.await, hlook]
    generalize o.poll t index state = look
    obtain ⟨answer, trace, next⟩ := look
    cases answer with
    | error error => rfl
    | ok poll =>
      cases poll with
      | ready result => rfl
      | notReady =>
        by_cases hlast : attempts = 0
        · simp [hlast, Exchange.noted, Exchange.requests]
        · have hpause : ∀ ms earlier, t.recorded.pause ms (next, earlier) =
              (t.pause ms next, earlier) := fun _ _ => rfl
          dsimp only [Exchange.noted]
          rw [if_neg hlast, if_neg hlast, hpause, ih]
          simp [Exchange.noted, Exchange.requests]

/-- **The client is given the requests to send that a run reports, and no others.** -/
theorem execute_recorded (s : Session) (statement : String) (state : σ) :
    let run := s.execute t statement state
    s.execute t.recorded statement (state, []) =
      { run with state := (run.state, run.requests.reverse) } := by
  have hsubmit : s.submit t.recorded statement (state, []) =
      (s.submit t statement state).noted [] := by
    unfold Session.submit
    dsimp only
    rw [request_recorded, Exchange.noted_mapResult]
  rw [Session.execute, Session.execute, hsubmit]
  generalize s.submit t statement state = submitted
  obtain ⟨answer, trace, next⟩ := submitted
  cases answer with
  | error error => simp [Exchange.noted, Exchange.requests]
  | ok operation =>
    dsimp only [Exchange.noted]
    rw [Operation.result, Operation.result, await_recorded]
    simp [Exchange.noted, Exchange.requests]

end Recorded

/-! ## 4. Addresses -/

/-- A base address is what is left without the slashes at its end. -/
theorem withoutTrailingSlashes_spec (s : String) :
    (∃ n, s = withoutTrailingSlashes s ++ String.ofList (List.replicate n '/')) ∧
      (withoutTrailingSlashes s).toList.getLast? ≠ some '/' := by
  let slash : Char → Bool := fun c => c = '/'
  let ending := s.toList.reverse.takeWhile slash
  have hending : ending = List.replicate ending.length '/' := by
    refine List.eq_replicate_of_mem fun c hc => ?_
    have hslash : slash c = true := List.mem_takeWhile_imp hc
    exact of_decide_eq_true hslash
  have hreverse : ending.reverse = List.replicate ending.length '/' := by
    rw [hending, List.reverse_replicate, List.length_replicate]
  constructor
  · refine ⟨ending.length, String.toList_inj.mp ?_⟩
    have hsplit : (ending ++ s.toList.reverse.dropWhile slash).reverse = s.toList := by
      rw [List.takeWhile_append_dropWhile, List.reverse_reverse]
    rw [List.reverse_append, hreverse] at hsplit
    rw [String.toList_append, String.toList_ofList, withoutTrailingSlashes, String.toList_ofList]
    exact hsplit.symm
  · rw [withoutTrailingSlashes, String.toList_ofList, List.getLast?_reverse]
    intro h
    have hnot := List.head?_dropWhile_not slash s.toList.reverse
    rw [h] at hnot
    cases hnot

theorem resultEndpoint_zero (s : Session) (handle : String) :
    (⟨s, handle⟩ : Operation).resultEndpoint 0 =
      s.gateway.baseUrl ++ "/v1/sessions/" ++ s.id ++ "/operations/" ++ handle ++ "/result/0" := by
  have hzero : toString 0 = "0" := rfl
  apply String.toList_inj.mp
  simp [Operation.resultEndpoint, hzero]

/-! ## 5. Whole runs -/

section Execute

/-- The request that submits a statement. -/
def submission (s : Session) (statement : String) : Request :=
  ⟨.post, s.statementsEndpoint, some (.fields [("statement", .string statement)])⟩

variable {σ : Type} (s : Session) (t : Transport σ) (statement : String) (state : σ)

/-- Submitting a statement is one request. -/
theorem submit_eq :
    s.submit t statement state =
      { result := match handleOf s.statementsEndpoint
            (t.answer (submission s statement) state).1 with
          | .ok id => .ok ⟨s, id⟩
          | .error error => .error (.remote error)
        trace := [t.event (submission s statement)]
        state := (t.answer (submission s statement) state).2 } := rfl

/-- The result of a statement that is not accepted is not asked for. -/
theorem execute_of_error {error : RemoteError}
    (h : Submission s.statementsEndpoint (t.answer (submission s statement) state).1
      (.error error)) :
    s.execute t statement state =
      { result := .error (.remote error), trace := [t.event (submission s statement)],
        state := (t.answer (submission s statement) state).2 } := by
  rw [Session.execute, submit_eq, handleOf_eq_iff.mpr h]

/-- Where statements are refused, nothing is sent. -/
theorem execute_of_refused {failure : TransportFailure}
    (h : t.refuses s.statementsEndpoint = some failure) :
    s.execute t statement state =
      { result := .error (.remote (.transport s.statementsEndpoint failure)),
        trace := [.refused (submission s statement)], state } := by
  have hrefused : t.refuses (submission s statement).endpoint = some failure := h
  have hanswer := Transport.answer_of_refused hrefused state
  have herror : Submission s.statementsEndpoint (t.answer (submission s statement) state).1
      (.error (.transport s.statementsEndpoint failure)) := by
    rw [hanswer]
    exact .unusable (.transport failure)
  rw [execute_of_error s t statement state herror, hanswer,
    Transport.event_of_refused hrefused]

section Accepted

variable {s t statement state} {handle : String}
  (h : Submission s.statementsEndpoint (t.answer (submission s statement) state).1 (.ok handle))

include h

/-- A statement that is accepted was sent. -/
theorem sent_of_accepted :
    t.event (submission s statement) = .sent (submission s statement) := by
  cases hrefuses : t.refuses (submission s statement).endpoint with
  | none => exact Transport.event_of_sent hrefuses
  | some failure =>
    rw [Transport.answer_of_refused hrefuses] at h
    cases h with
    | handle hread _ _ =>
      obtain ⟨_, hanswer, _⟩ := hread
      cases hanswer

/-- The result of a statement that is accepted is asked for. -/
theorem execute_of_accepted :
    s.execute t statement state =
      let awaited := (⟨s, handle⟩ : Operation).await t 0 s.gateway.policy.attempts
        (t.answer (submission s statement) state).2
      { awaited with trace := .sent (submission s statement) :: awaited.trace } := by
  rw [Session.execute, submit_eq, handleOf_eq_iff.mpr h, sent_of_accepted h]
  rfl

/-- Where the page of the result is refused, nothing is sent but the statement. -/
theorem execute_of_page_refused {failure : TransportFailure}
    (hrefuses : t.refuses ((⟨s, handle⟩ : Operation).resultEndpoint 0) = some failure) :
    (s.execute t statement state).trace =
        [.sent (submission s statement), .refused ((⟨s, handle⟩ : Operation).look 0)] ∧
      (s.execute t statement state).requests = [submission s statement] ∧
      (s.execute t statement state).result =
        .error (.remote (.transport ((⟨s, handle⟩ : Operation).resultEndpoint 0) failure)) := by
  let o : Operation := ⟨s, handle⟩
  have hrefused : t.refuses (o.look 0).endpoint = some failure := hrefuses
  obtain ⟨attempts, hattempts⟩ :=
    Nat.exists_eq_succ_of_ne_zero (Nat.ne_of_gt s.gateway.policy.attempts_pos)
  let next := (t.answer (submission s statement) state).2
  have hpoll : pollOf (o.resultEndpoint 0) (t.answer (o.look 0) next).1 =
      (Except.error (RemoteError.transport (o.resultEndpoint 0) failure)).map Poll.ready := by
    rw [Transport.answer_of_refused hrefused]
    exact pollOf_of_settles (.unusable (.transport failure))
  have hawait : o.await t 0 (attempts + 1) next = _ := o.await_succ_of_decided 0 t hpoll
  rw [Transport.event_of_refused hrefused] at hawait
  rw [execute_of_accepted h, hattempts, hawait]
  exact ⟨rfl, rfl, rfl⟩

end Accepted

end Execute

/-- **A statement is submitted once, and its result is asked for until it is decided**, whatever the
    base address, the attempts, the interval, the session, the statement and the client are; zero
    attempts count as one. All addresses are below the base without the slashes at its end. The
    client is asked to post the statement once, and without a handle in its answer the error of that
    is the error of the run. With a handle the first page of its result is asked for, with pauses
    between two requests only, up to the first answer that does not leave it open, and that answer
    alone decides the result; if the attempts are used up before, the run ends with a timeout. A
    field of an answer counts as absent if it is missing or null.

    A request to an address that the client refuses is an error like any other, but nothing is sent:
    if statements are refused, nothing at all, and if the page is, nothing but the statement. What
    the run reports as sent is what the client was given to send. -/
theorem execute_submits_once_and_polls {σ : Type} (baseUrl : String) (attempts interval : Nat)
    (id statement : String) (t : Transport σ) (state : σ) :
    let base := withoutTrailingSlashes baseUrl
    let s : Session := ⟨Gateway.ofUrl baseUrl (.of attempts interval), id⟩
    let statements := base ++ "/v1/sessions/" ++ id ++ "/statements"
    let m := max attempts 1
    let post : Request := ⟨.post, statements, some (.fields [("statement", .string statement)])⟩
    let answer := (t.answer post state).1
    let run := s.execute t statement state
    ((∃ n, baseUrl = base ++ String.ofList (List.replicate n '/')) ∧
      base.toList.getLast? ≠ some '/') ∧
    (∃ result, Submission statements answer result) ∧
    (∀ error, Submission statements answer (.error error) →
      run.trace = [t.event post] ∧ run.result = .error (.remote error)) ∧
    (∀ failure, t.refuses statements = some failure →
      run.trace = [.refused post] ∧ run.requests = [] ∧
        run.result = .error (.remote (.transport statements failure))) ∧
    (∀ handle, Submission statements answer (.ok handle) →
      let page := base ++ "/v1/sessions/" ++ id ++ "/operations/" ++ handle ++ "/result/0"
      let get : Request := ⟨.get, page, none⟩
      let answers := t.answers get interval (t.answer post state).2
      (∀ k < m, (∀ j < k, NotReady (answers j)) → ¬ NotReady (answers k) →
        run.trace = .sent post :: looks (t.event get) interval (k + 1) ∧
        (∃ result, Settles page (answers k) result) ∧
        ∀ result, Settles page (answers k) result → run.result = result.mapError .remote) ∧
      ((∀ j < m, NotReady (answers j)) →
        run.trace = .sent post :: looks (t.event get) interval m ∧
        run.result = .error (.pollTimeout m id handle)) ∧
      ∀ failure, t.refuses page = some failure →
        run.trace = [.sent post, .refused get] ∧ run.requests = [post] ∧
          run.result = .error (.remote (.transport page failure))) ∧
    (∀ {doc : Doc} {body : ResultBody}, ResultBody.ofDoc? doc = some body →
      ∃ r, Record.ofDoc? ["resultType", "results", "jobID"] doc = some r ∧
        (body.resultType = none ↔ Lacks r "resultType") ∧
        (body.results = none ↔ Lacks r "results") ∧ (body.jobId = none ↔ Lacks r "jobID")) ∧
    s.execute t.recorded statement (state, []) =
      { run with state := (run.state, run.requests.reverse) } := by
  intro base s statements
  have hstatements : statements = s.statementsEndpoint := rfl
  clear_value statements
  subst hstatements
  intro m post answer run
  refine ⟨withoutTrailingSlashes_spec baseUrl, ⟨_, handleOf_eq_iff.mp rfl⟩, fun error herror => ?_,
    fun failure hfailure => ?_, fun handle hhandle => ?_, absent_iff_lacks,
    execute_recorded t s statement state⟩
  · show (s.execute t statement state).trace = _ ∧ (s.execute t statement state).result = _
    rw [execute_of_error s t statement state herror]
    exact ⟨rfl, rfl⟩
  · show (s.execute t statement state).trace = _ ∧ (s.execute t statement state).requests = _ ∧
      (s.execute t statement state).result = _
    rw [execute_of_refused s t statement state hfailure]
    exact ⟨rfl, rfl, rfl⟩
  · intro page
    have hpage : page = (⟨s, handle⟩ : Operation).resultEndpoint 0 :=
      (resultEndpoint_zero s handle).symm
    clear_value page
    subst hpage
    let o : Operation := ⟨s, handle⟩
    have hrun := execute_of_accepted hhandle
    refine ⟨fun k hk hopen hdecided => ?_, fun hopen => ?_,
      fun failure hfailure => execute_of_page_refused hhandle hfailure⟩
    · have hawait := fun result => o.await_of_decided 0 t hk result hopen
      obtain ⟨result, hsettles⟩ := exists_settles (o.resultEndpoint 0) hdecided
      refine ⟨?_, ⟨result, hsettles⟩, fun result' hsettles' => ?_⟩
      · show (s.execute t statement state).trace = _
        rw [hrun]
        exact congrArg _ (hawait result hsettles).1
      · show (s.execute t statement state).result = _
        rw [hrun]
        exact (hawait result' hsettles').2
    · have hpos : max attempts 1 ≠ 0 := by omega
      obtain ⟨htrace, hresult⟩ := o.await_of_open 0 t hpos hopen
      refine ⟨?_, ?_⟩
      · show (s.execute t statement state).trace = _
        rw [hrun]
        exact congrArg _ htrace
      · show (s.execute t statement state).result = _
        rw [hrun]
        exact hresult

/-- A gateway that accepts a statement, is asked once in vain, and breaks down. -/
def breaksDown : Transport Nat where
  send _ n :=
    (.ok (if n = 0 then ⟨200, "\x7b\"operationHandle\": \"op-1\"\x7d"⟩
      else if n = 1 then ⟨200, "\x7b\"resultType\": \"NOT_READY\"\x7d"⟩
      else ⟨500, "boom"⟩), n + 1)

/-- An error ends the asking at once, with three of five attempts left. -/
theorem execute_submits_once_and_polls_breakdown :
    let s : Session := ⟨Gateway.ofUrl "http://gw:8083//" (.of 5 40), "s-1"⟩
    let run := s.execute breaksDown "SELECT 1" 0
    run.requests.map (fun r => (r.method, r.endpoint)) =
        [(.post, "http://gw:8083/v1/sessions/s-1/statements"),
         (.get, "http://gw:8083/v1/sessions/s-1/operations/op-1/result/0"),
         (.get, "http://gw:8083/v1/sessions/s-1/operations/op-1/result/0")] ∧
      run.result = .error (.remote
        (.status "http://gw:8083/v1/sessions/s-1/operations/op-1/result/0" 500 "boom")) := by
  intro s run
  obtain ⟨_, _, _, _, haccepted, _⟩ :=
    execute_submits_once_and_polls "http://gw:8083//" 5 40 "s-1" "SELECT 1" breaksDown 0
  have hbase : withoutTrailingSlashes "http://gw:8083//" = "http://gw:8083" := by decide +kernel
  have hpost : "http://gw:8083" ++ "/v1/sessions/" ++ "s-1" ++ "/statements" =
      "http://gw:8083/v1/sessions/s-1/statements" := by decide +kernel
  have hpage : "http://gw:8083" ++ "/v1/sessions/" ++ "s-1" ++ "/operations/" ++ "op-1"
      ++ "/result/0" = "http://gw:8083/v1/sessions/s-1/operations/op-1/result/0" := by
    decide +kernel
  rw [hbase, hpost] at haccepted
  have hhandle : handleOf "http://gw:8083/v1/sessions/s-1/statements"
      (.ok ⟨200, "\x7b\"operationHandle\": \"op-1\"\x7d"⟩) = .ok "op-1" := by decide +kernel
  obtain ⟨hdecided, _⟩ := haccepted "op-1" (handleOf_eq_iff.mp hhandle)
  rw [hpage] at hdecided
  have hopen : NotReady (.ok ⟨200, "\x7b\"resultType\": \"NOT_READY\"\x7d"⟩) := by decide +kernel
  have hbroken : ¬ NotReady (.ok ⟨500, "boom"⟩) := by decide +kernel
  obtain ⟨htrace, _, hresult⟩ := hdecided 1 (by decide)
    (fun j hj => by
      obtain rfl : j = 0 := by omega
      exact hopen) hbroken
  refine ⟨?_, hresult _ (.unusable (.status (by decide)))⟩
  show List.map _ (Exchange.requests _) = _
  rw [Exchange.requests, htrace]
  rfl

end JobKeeper
