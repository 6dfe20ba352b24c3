/-
  File:      JobKeeper/Proofs/Remote/Listing.lean
  Subject:   Fetching the jobs of a kind: all of them in order, or an error and none.

  A hub may answer anything, with any status and any text. Of an answer with status 200 the body has
  to be `null`, or an array each of whose elements is a job of the kind; one element that is not
  spoils the others.

  * `Lists`, `lists_iff`: the bodies that list jobs, and the jobs they list;
  * `Unlistable`, `unusable_iff_unlistable`: the error of any other answer;
  * `Hub.fetch_eq`: one request for one listing;
  * `Hub.outcomes_eq`: what is fetched of a kind while nothing shows of the other;
  * `Hub.fetch_all_or_none`: the whole of it.
-/
import JobKeeper.Proofs.Job.Wire
import JobKeeper.Proofs.Json.Records
import JobKeeper.Proofs.Remote.Polling
import JobKeeper.Remote.Hub

namespace JobKeeper

open Json (Doc Record ArrayText)

/-! ## 1. Bodies that list jobs -/

/-- The text of an element of a list is a job of the kind. It is one level deep. -/
def IsListed (kind : JobKind) (element : String) (job : Job) : Prop :=
  (Doc.ofText? element).bind (Job.ofDoc? kind (Json.deepest - 1)) = some job

/-- A job that is listed is of the kind asked for, and is read as the same job by itself. -/
theorem IsListed.ofText? {kind : JobKind} {element : String} {job : Job}
    (h : IsListed kind element job) : Job.ofText? kind element = some job := by
  obtain ⟨doc, hdoc, hjob⟩ := Option.bind_eq_some_iff.mp h
  show (Doc.ofText? element).bind (Job.ofDoc? kind Json.deepest) = some job
  rw [hdoc]
  exact Job.ofDoc?_mono (Nat.sub_le _ 1) doc kind job hjob

theorem IsListed.kind_eq {kind : JobKind} {element : String} {job : Job}
    (h : IsListed kind element job) : job.kind = kind :=
  Job.kind_of_ofText? h.ofText?

/-- **The bodies that list jobs of a kind**: `null` lists none, and an array one for each element,
    in their order. -/
inductive Lists (kind : JobKind) (body : String) : List Job → Prop where
  | null (h : Doc.ofText? body = some .null) : Lists kind body []
  | array {elements : List String} {jobs : List Job} (h : ArrayText body elements)
      (hjobs : List.Forall₂ (IsListed kind) elements jobs) : Lists kind body jobs

section Lists

variable {kind : JobKind} {body : String}

/-- The items of an array are read as its elements are. -/
theorem listOfDoc?_of_arrayText {elements : List String} (h : ArrayText body elements)
    (jobs : List Job) :
    (Doc.ofText? body).bind (Job.listOfDoc? kind) = some jobs ↔
      List.Forall₂ (IsListed kind) elements jobs := by
  obtain ⟨docs, hdoc, hdocs⟩ := h.docs
  rw [hdoc]
  show docs.mapM (Job.ofDoc? kind (Json.deepest - 1)) = some jobs ↔ _
  rw [Record.mapM_eq_some_iff]
  clear h hdoc
  induction hdocs generalizing jobs with
  | nil => rw [List.forall₂_nil_left_iff, List.forall₂_nil_left_iff]
  | @cons element doc elements docs helement _ ih =>
    rw [List.forall₂_cons_left_iff, List.forall₂_cons_left_iff]
    simp only [ih, IsListed, helement, Option.bind_some]

theorem lists_iff {jobs : List Job} :
    (Doc.ofText? body).bind (Job.listOfDoc? kind) = some jobs ↔ Lists kind body jobs := by
  constructor
  · intro h
    obtain ⟨doc, hdoc, hlist⟩ := Option.bind_eq_some_iff.mp h
    rcases Job.listOfDoc?_cases hlist with ⟨rfl, rfl⟩ | ⟨docs, rfl, _⟩
    · exact .null hdoc
    · obtain ⟨elements, hcut⟩ := Json.exists_arrayText hdoc
      exact .array hcut ((listOfDoc?_of_arrayText hcut jobs).mp h)
  · intro h
    cases h with
    | null h =>
      rw [h]
      rfl
    | array h hjobs => exact (listOfDoc?_of_arrayText h jobs).mpr hjobs

/-- Elements that are all jobs of the kind are read as jobs. -/
theorem exists_jobs {elements : List String} (h : ∀ e ∈ elements, ∃ job, IsListed kind e job) :
    ∃ jobs, List.Forall₂ (IsListed kind) elements jobs := by
  induction elements with
  | nil => exact ⟨[], .nil⟩
  | cons e elements ih =>
    obtain ⟨hfirst, hlater⟩ := List.forall_mem_cons.mp h
    obtain ⟨job, hjob⟩ := hfirst
    obtain ⟨jobs, hjobs⟩ := ih hlater
    exact ⟨job :: jobs, .cons hjob hjobs⟩

theorem exists_job_of_mem {elements : List String} {jobs : List Job}
    (h : List.Forall₂ (IsListed kind) elements jobs) {e : String} (he : e ∈ elements) :
    ∃ job, IsListed kind e job := by
  induction h with
  | nil => cases he
  | cons hjob _ ih =>
    rcases List.mem_cons.mp he with rfl | hlater
    · exact ⟨_, hjob⟩
    · exact ih hlater

/-- Jobs that are listed are of the kind, and each is read from its element, however the body is cut
    into elements. -/
theorem Lists.jobs {jobs : List Job} (h : Lists kind body jobs) :
    (∀ job ∈ jobs, job.kind = kind) ∧
      ∀ elements, ArrayText body elements → List.Forall₂ (IsListed kind) elements jobs := by
  constructor
  · cases h with
    | null _ => simp
    | array hcut hjobs =>
      clear hcut
      induction hjobs with
      | nil => simp
      | cons hjob _ ih =>
        exact List.forall_mem_cons.mpr ⟨hjob.kind_eq, ih⟩
  · exact fun elements hcut => (listOfDoc?_of_arrayText hcut jobs).mp (lists_iff.mpr h)

end Lists

/-! ## 2. Answers that list none -/

/-- **The error of an answer that is no listing**: there is none, its status is not 200, or its
    body is not JSON, neither `null` nor an array, or has an element that is no job of the kind. -/
inductive Unlistable (endpoint : String) (kind : JobKind) :
    Transport.Answer → RemoteError → Prop where
  | transport (failure : TransportFailure) :
    Unlistable endpoint kind (.error failure) (.transport endpoint failure)
  | status {status : Nat} {body : String} (h : status ≠ 200) :
    Unlistable endpoint kind (.ok ⟨status, body⟩) (.status endpoint status body)
  | noJson {body : String} (h : Doc.ofText? body = none) :
    Unlistable endpoint kind (.ok ⟨200, body⟩) (.decode endpoint unreadable)
  | noList {body : String} {doc : Doc} (h : Doc.ofText? body = some doc) (hnull : doc ≠ .null)
      (harray : ∀ items, doc ≠ .array items) :
    Unlistable endpoint kind (.ok ⟨200, body⟩) (.decode endpoint unreadable)
  | element {body : String} {elements : List String} {e : String} (h : ArrayText body elements)
      (hmem : e ∈ elements) (hjob : ∀ job, ¬ IsListed kind e job) :
    Unlistable endpoint kind (.ok ⟨200, body⟩) (.decode endpoint unreadable)

section Unlistable

variable {endpoint : String} {kind : JobKind} {answer : Transport.Answer} {error : RemoteError}

/-- What is wrong with a body that lists no jobs. -/
theorem unlistable_of_none {body : String}
    (h : (Doc.ofText? body).bind (Job.listOfDoc? kind) = none) :
    Unlistable endpoint kind (.ok ⟨200, body⟩) (.decode endpoint unreadable) := by
  cases hdoc : Doc.ofText? body with
  | none => exact .noJson hdoc
  | some doc =>
    by_cases harray : ∃ items, doc = .array items
    · obtain ⟨items, rfl⟩ := harray
      obtain ⟨elements, hcut⟩ := Json.exists_arrayText hdoc
      -- If each element were a job, the body would list them.
      by_contra hnot
      have hall : ∀ e ∈ elements, ∃ job, IsListed kind e job := by
        intro e he
        by_contra hnone
        exact hnot (.element hcut he fun job hjob => hnone ⟨job, hjob⟩)
      obtain ⟨jobs, hjobs⟩ := exists_jobs hall
      rw [(listOfDoc?_of_arrayText hcut jobs).mpr hjobs] at h
      cases h
    · refine .noList hdoc (fun hnull => ?_) fun items hitems => harray ⟨items, hitems⟩
      rw [hdoc, hnull] at h
      cases h

variable (endpoint) in
theorem none_of_unlistable {body : String}
    (h : Unlistable endpoint kind (.ok ⟨200, body⟩) (.decode endpoint unreadable)) :
    (Doc.ofText? body).bind (Job.listOfDoc? kind) = none := by
  refine Option.eq_none_iff_forall_not_mem.mpr fun jobs hjobs => ?_
  have hlists : Lists kind body jobs := lists_iff.mp hjobs
  cases h with
  | noJson h =>
    rw [h] at hjobs
    cases hjobs
  | noList h hnull harray =>
    rw [h] at hjobs
    rcases Job.listOfDoc?_cases hjobs with ⟨hd, _⟩ | ⟨items, hd, _⟩
    · exact hnull hd
    · exact harray items hd
  | element h hmem hjob =>
    obtain ⟨job, hlisted⟩ := exists_job_of_mem (hlists.jobs.2 _ h) hmem
    exact hjob job hlisted

/-- **An answer cannot be used exactly if it is no listing**, and the error is the same. -/
theorem unusable_iff_unlistable :
    Unusable endpoint (Job.listOfDoc? kind) answer error ↔
      Unlistable endpoint kind answer error := by
  constructor
  · intro h
    cases h with
    | transport failure => exact .transport failure
    | status h => exact .status h
    | decode h => exact unlistable_of_none h
  · intro h
    cases h with
    | transport failure => exact .transport failure
    | status h => exact .status h
    | noJson h => exact .decode (none_of_unlistable endpoint (.noJson h))
    | noList h hnull harray => exact .decode (none_of_unlistable endpoint (.noList h hnull harray))
    | element h hmem hjob => exact .decode (none_of_unlistable endpoint (.element h hmem hjob))

theorem Unlistable.endpoint_eq (h : Unlistable endpoint kind answer error) :
    error.endpoint = endpoint := by
  cases h with
  | _ => rfl

end Unlistable

/-! ## 3. One listing -/

namespace Hub

/-- The request for the jobs of a kind. -/
def listing (h : Hub) (kind : JobKind) : Request := ⟨.get, h.endpoint kind, none⟩

section Fetch

variable {σ : Type} (h : Hub) (t : Transport σ) (kind : JobKind) (state : σ)

/-- **One listing is one request**, and what is read of its answer. -/
theorem fetch_eq :
    h.fetch t kind state =
      { result := decoded (h.endpoint kind) (Job.listOfDoc? kind)
          (t.answer (h.listing kind) state).1
        trace := [t.event (h.listing kind)]
        state := (t.answer (h.listing kind) state).2 } := rfl

/-- Where the address is refused, nothing is sent. -/
theorem fetch_of_refused {failure : TransportFailure}
    (hrefuses : t.refuses (h.endpoint kind) = some failure) :
    h.fetch t kind state =
      { result := .error (.transport (h.endpoint kind) failure)
        trace := [.refused (h.listing kind)]
        state } := by
  have hrefused : t.refuses (h.listing kind).endpoint = some failure := hrefuses
  rw [fetch_eq, Transport.answer_of_refused hrefused, Transport.event_of_refused hrefused]
  rfl

/-- Anywhere else, one request is sent. -/
theorem fetch_of_sent (hrefuses : t.refuses (h.endpoint kind) = none) :
    h.fetch t kind state =
      { result := decoded (h.endpoint kind) (Job.listOfDoc? kind) (t.send (h.listing kind) state).1
        trace := [.sent (h.listing kind)]
        state := (t.send (h.listing kind) state).2 } := by
  have hsent : t.refuses (h.listing kind).endpoint = none := hrefuses
  rw [fetch_eq, Transport.answer_of_sent hsent, Transport.event_of_sent hsent]

/-- The client is given the request to send that a listing reports, and no other. -/
theorem fetch_recorded (earlier : List Request) :
    h.fetch t.recorded kind (state, earlier) = (h.fetch t kind state).noted earlier := by
  unfold fetch
  rw [request_recorded, Exchange.noted_mapResult]

end Fetch

/-! ## 4. Listings of both kinds -/

/-- What is fetched of a kind while the kinds are fetched in this order. -/
def outcomes {σ : Type} (h : Hub) (t : Transport σ) (kind : JobKind) :
    List JobKind → σ → List (Except RemoteError (List Job))
  | [], _ => []
  | fetched :: kinds, state =>
    let e := h.fetch t fetched state
    if fetched = kind then e.result :: h.outcomes t kind kinds e.state
    else h.outcomes t kind kinds e.state

/-- **Nothing shows of the other kind.** The hubs list this kind at one address, where the clients
    get the same in two states that are alike, which then stay alike, as they do whatever is fetched
    of another kind on either side. -/
structure AlikeFor {σ σ' : Type} (kind : JobKind) (h : Hub) (t : Transport σ) (h' : Hub)
    (t' : Transport σ') (alike : σ → σ' → Prop) : Prop where
  endpoint : h'.endpoint kind = h.endpoint kind
  answer : ∀ request state state', request.endpoint = h.endpoint kind → alike state state' →
    (t.answer request state).1 = (t'.answer request state').1 ∧
      alike (t.answer request state).2 (t'.answer request state').2
  left : ∀ other state state', other ≠ kind → alike state state' →
    alike (h.fetch t other state).state state'
  right : ∀ other state state', other ≠ kind → alike state state' →
    alike state (h'.fetch t' other state').state

section Outcomes

variable {σ σ' : Type} {kind fetched : JobKind} {h : Hub} {t : Transport σ} {h' : Hub}
  {t' : Transport σ'} {alike : σ → σ' → Prop} {state : σ} {state' : σ'}

/-- Alike states give the same listing and stay alike. -/
theorem AlikeFor.fetch (apart : AlikeFor kind h t h' t' alike) (hs : alike state state') :
    (h.fetch t kind state).result = (h'.fetch t' kind state').result ∧
      alike (h.fetch t kind state).state (h'.fetch t' kind state').state := by
  have hlisting : h'.listing kind = h.listing kind := by
    rw [listing, listing, apart.endpoint]
  obtain ⟨hanswer, hnext⟩ := apart.answer (h.listing kind) state state' rfl hs
  rw [fetch_eq, fetch_eq, apart.endpoint, hlisting]
  refine ⟨?_, hnext⟩
  dsimp only
  rw [hanswer]

theorem outcomes_cons_of_ne (hne : fetched ≠ kind) (kinds : List JobKind) :
    h.outcomes t kind (fetched :: kinds) state =
      h.outcomes t kind kinds (h.fetch t fetched state).state := by
  rw [outcomes, if_neg hne]

theorem outcomes_cons_self (kinds : List JobKind) :
    h.outcomes t kind (kind :: kinds) state =
      (h.fetch t kind state).result :: h.outcomes t kind kinds (h.fetch t kind state).state := by
  rw [outcomes, if_pos rfl]

/-- A kind that is not fetched has no outcomes. -/
theorem outcomes_eq_nil {kinds : List JobKind} (hnone : kinds.count kind = 0) :
    h.outcomes t kind kinds state = [] := by
  induction kinds generalizing state with
  | nil => rfl
  | cons fetched kinds ih =>
    have hnot : kind ∉ fetched :: kinds := List.count_eq_zero.mp hnone
    have hne : fetched ≠ kind := fun heq => hnot (heq ▸ List.mem_cons_self)
    rw [outcomes_cons_of_ne hne]
    exact ih (List.count_eq_zero.mpr fun hmem => hnot (List.mem_cons_of_mem _ hmem))

/-- **What is fetched of a kind depends on how often it is fetched only**, not on when, where and
    with what result the other kind is. -/
theorem outcomes_eq (apart : AlikeFor kind h t h' t' alike) (hs : alike state state')
    {kinds kinds' : List JobKind} (hcount : kinds.count kind = kinds'.count kind) :
    h.outcomes t kind kinds state = h'.outcomes t' kind kinds' state' := by
  induction kinds generalizing state state' kinds' with
  | nil => exact (outcomes_eq_nil hcount.symm).symm
  | cons fetched kinds ih =>
    by_cases hfetched : fetched = kind
    · subst hfetched
      rw [List.count_cons_self] at hcount
      -- The other run comes to the same fetch after some fetches of the other kind.
      induction kinds' generalizing state' with
      | nil => simp at hcount
      | cons fetched' kinds' ih' =>
        by_cases hfetched' : fetched' = fetched
        · subst hfetched'
          obtain ⟨hresult, hnext⟩ := apart.fetch hs
          rw [List.count_cons_self] at hcount
          rw [outcomes_cons_self, outcomes_cons_self, hresult,
            ih hnext (Nat.succ.inj hcount)]
        · rw [List.count_cons_of_ne hfetched'] at hcount
          rw [outcomes_cons_of_ne hfetched']
          exact ih' (apart.right fetched' state state' hfetched' hs) hcount
    · rw [List.count_cons_of_ne hfetched] at hcount
      rw [outcomes_cons_of_ne hfetched]
      exact ih (apart.left fetched state state' hfetched hs) hcount

end Outcomes

/-- **Fetching the jobs of a kind gives all of them in order, or an error and none**, whatever the
    client is. If it refuses the address, nothing is sent. Otherwise one GET without a body is, and
    the client is given no other request to send. Jobs come of the answer exactly if its status is
    200 and its body is `null`, which lists none, or an array of which each element is a job of the
    kind: one job for each element in the same order, however the body is cut into elements. Any
    other answer is an error that names the endpoint, and says which. Two hubs that list the kind
    alike, whatever else they do, give the same for it, however often and with whatever answers the
    other kind is fetched in between. -/
theorem fetch_all_or_none {σ : Type} (h : Hub) (t : Transport σ) (kind : JobKind) (state : σ) :
    let request : Request := { method := .get, endpoint := h.endpoint kind, body := none }
    let run := h.fetch t kind state
    (∀ failure, t.refuses (h.endpoint kind) = some failure →
      run.trace = [.refused request] ∧ run.requests = [] ∧ run.state = state ∧
        run.result = .error (.transport (h.endpoint kind) failure)) ∧
    (t.refuses (h.endpoint kind) = none →
      let answer := (t.send request state).1
      run.trace = [.sent request] ∧ run.state = (t.send request state).2 ∧
      (∀ jobs, run.result = .ok jobs ↔ ∃ body, answer = .ok ⟨200, body⟩ ∧ Lists kind body jobs) ∧
      ∀ error, run.result = .error error ↔ Unlistable (h.endpoint kind) kind answer error) ∧
    (∀ error, run.result = .error error → error.endpoint = h.endpoint kind) ∧
    (∀ earlier, h.fetch t.recorded kind (state, earlier) = run.noted earlier) ∧
    (∀ body jobs, Lists kind body jobs → (∀ job ∈ jobs, job.kind = kind) ∧
      ∀ elements, ArrayText body elements → List.Forall₂ (IsListed kind) elements jobs) ∧
    ∀ {σ' : Type} (h' : Hub) (t' : Transport σ') (alike : σ → σ' → Prop) (state' : σ')
      (kinds kinds' : List JobKind), AlikeFor kind h t h' t' alike → alike state state' →
      kinds.count kind = kinds'.count kind →
      h.outcomes t kind kinds state = h'.outcomes t' kind kinds' state' := by
  intro request run
  refine ⟨fun failure hrefused => ?_, fun hsent => ?_, fun error herror => ?_,
    fetch_recorded h t kind state, fun body jobs hlists => hlists.jobs,
    fun h' t' alike state' kinds kinds' apart hs hcount => outcomes_eq apart hs hcount⟩
  · have hrun : run = _ := fetch_of_refused h t kind state hrefused
    rw [hrun]
    exact ⟨rfl, rfl, rfl, rfl⟩
  · have hrun : run = _ := fetch_of_sent h t kind state hsent
    rw [hrun]
    refine ⟨rfl, rfl, fun jobs => ?_, fun error => ?_⟩
    · exact decoded_eq_ok_iff.trans (exists_congr fun body => and_congr_right fun _ => lists_iff)
    · exact decoded_eq_error_iff.trans unusable_iff_unlistable
  · have hrun : run = _ := fetch_eq h t kind state
    rw [hrun] at herror
    exact (unusable_iff_unlistable.mp (decoded_eq_error_iff.mp herror)).endpoint_eq

/-- A hub that lists a behavior once and is busy after that, and lists rules of which one is none.
    It counts the requests for each. -/
def busyAfterOne : Transport (Nat × Nat) where
  send request n :=
    if request.endpoint = "http://hub/behaviors" then
      (.ok (if n.1 = 0 then ⟨200, "[\x7b\"id\": \"b1\"\x7d]"⟩ else ⟨503, "busy"⟩), (n.1 + 1, n.2))
    else (.ok ⟨200, "[\x7b\x7d, 7]"⟩, (n.1, n.2 + 1))

/-- A hub that lists the same behaviors and nothing else. An address without a scheme cannot be
    requested. -/
def behaviorsOnly : Transport Nat where
  refuses endpoint :=
    if endpoint = "hub" then some ⟨"builder error", ["relative URL without a base"]⟩ else none
  send _ n :=
    (.ok (if n = 0 then ⟨200, "[\x7b\"id\": \"b1\"\x7d]"⟩ else ⟨503, "busy"⟩), n + 1)

/-- An element that is no rule makes the rules unreadable. The behaviors are the same as those of a
    hub with no address for rules, fetched in another order. -/
theorem fetch_all_or_none_busy :
    let h : Hub := ⟨"http://hub/behaviors", "http://hub/rules"⟩
    let h' : Hub := ⟨"http://hub/behaviors", "hub"⟩
    (h.fetch busyAfterOne .rule (0, 0)).result = .error (.decode "http://hub/rules" unreadable) ∧
      (h'.fetch behaviorsOnly .rule 0).requests.length = 0 ∧
      h.outcomes busyAfterOne .behavior [.behavior, .rule, .behavior] (0, 0) =
        h'.outcomes behaviorsOnly .behavior [.rule, .behavior, .behavior] 0 := by
  intro h h'
  have hrefuses : behaviorsOnly.refuses (h'.endpoint .rule) =
      some ⟨"builder error", ["relative URL without a base"]⟩ := rfl
  obtain ⟨_, hlisting, _⟩ := fetch_all_or_none h busyAfterOne .rule (0, 0)
  obtain ⟨hnone, _⟩ := fetch_all_or_none h' behaviorsOnly .rule 0
  obtain ⟨_, _, _, _, _, hsame⟩ := fetch_all_or_none h busyAfterOne .behavior (0, 0)
  refine ⟨?_, ?_, ?_⟩
  · obtain ⟨_, _, _, herror⟩ := hlisting rfl
    have hblank : Json.Blank "" := by simp [Json.Blank]
    have hcut : ArrayText ("" ++ "[" ++ Text.join "," ["\x7b\x7d", " 7"] ++ "]" ++ "")
        ["\x7b\x7d", " 7"] :=
      .elements hblank hblank (List.cons_ne_nil _ _) (by decide +kernel)
    have htext : "" ++ "[" ++ Text.join "," ["\x7b\x7d", " 7"] ++ "]" ++ "" =
        "[\x7b\x7d, 7]" := by
      decide +kernel
    rw [htext] at hcut
    have hmem : " 7" ∈ ["\x7b\x7d", " 7"] := by simp
    refine (herror _).mpr (.element hcut hmem fun job hjob => ?_)
    have hnot : ((Doc.ofText? " 7").bind (Job.ofDoc? .rule (Json.deepest - 1))).isNone = true := by
      decide +kernel
    rw [show _ = some job from hjob] at hnot
    cases hnot
  · obtain ⟨_, hrequests, _⟩ := hnone _ hrefuses
    rw [hrequests]
    rfl
  · refine hsame h' behaviorsOnly (fun n n' => n.1 = n') 0 _ _ ⟨rfl, ?_, ?_, ?_⟩ rfl rfl
    · intro request n n' hendpoint hn
      have hbehaviors : request.endpoint = "http://hub/behaviors" := hendpoint
      simp [Transport.answer, busyAfterOne, behaviorsOnly, hbehaviors, hn]
    · intro other n n' hother hn
      cases other with
      | behavior => exact absurd rfl hother
      | rule =>
        rw [fetch_of_sent h busyAfterOne .rule n rfl]
        simpa [busyAfterOne, h, listing, endpoint] using hn
    · intro other n n' hother hn
      cases other with
      | behavior => exact absurd rfl hother
      | rule =>
        rw [fetch_of_refused h' behaviorsOnly .rule n' hrefuses]
        exact hn

end Hub

end JobKeeper
