/-
  File:      JobKeeper/Proofs/Plan/Names.lean
  Subject:   When two objects that jobs create have one name.

  A name is a fixed stem and the id of the job. No stem begins another, with one exception for each
  kind of job: the stem of the filter view begins that of a sink, and `sink_` is what is missing. So
  a job whose id begins with `sink_` names its view like the sink of the job with the rest of the id,
  and nothing else clashes.

  * `Role`: what an object is to its job; `Role.stem`: how its name begins;
  * `Role.eq_or_shadows_of_prefix`: which stems begin others;
  * `Role.name_eq_name_iff`: which names are equal;
  * `created_names_clash_iff`: the same of the objects that plans create.
-/
import JobKeeper.Proofs.Job.TrackingId
import JobKeeper.Proofs.Plan.Faults
import Mathlib.Data.List.Nodup

namespace JobKeeper

/-! ## 1. Roles -/

/-- What an object is to the job that creates it. -/
inductive Role where
  | source (kind : JobKind)
  | filterView (kind : JobKind)
  | profileView
  | behaviorSink
  | profilingSink
  | ruleSink
  deriving DecidableEq, Repr

namespace Role

/-- The kind of the jobs that have such an object. -/
def kind : Role → JobKind
  | source kind => kind
  | filterView kind => kind
  | profileView => .behavior
  | behaviorSink => .behavior
  | profilingSink => .behavior
  | ruleSink => .rule

/-- The name of the object of the job with this id. -/
def name (id : String) : Role → String
  | source .behavior => (BehaviorObjects.ofId id).sourceTable
  | source .rule => (RuleObjects.ofId id).sourceTable
  | filterView .behavior => (BehaviorObjects.ofId id).filterView
  | filterView .rule => (RuleObjects.ofId id).filterView
  | profileView => (BehaviorObjects.ofId id).profileView
  | behaviorSink => (BehaviorObjects.ofId id).behaviorSink
  | profilingSink => (BehaviorObjects.ofId id).profilingSink
  | ruleSink => (RuleObjects.ofId id).ruleSink

/-- The objects of a job of a kind, in the order in which they are created. -/
def ofKind : JobKind → List Role
  | .behavior => [source .behavior, filterView .behavior, profileView, behaviorSink, profilingSink]
  | .rule => [source .rule, filterView .rule, ruleSink]

theorem mem_ofKind_iff (r : Role) (kind : JobKind) : r ∈ ofKind kind ↔ r.kind = kind := by
  cases kind <;> rcases r with (_ | _) | (_ | _) | _ | _ | _ | _ <;> decide

theorem nodup_ofKind (kind : JobKind) : (ofKind kind).Nodup := by
  cases kind <;> decide

/-! ## 2. Stems -/

/-- What a name begins with, before the id. -/
def stem (r : Role) : String := r.name ""

theorem name_eq (r : Role) (id : String) : r.name id = r.stem ++ id := by
  rcases r with (_ | _) | (_ | _) | _ | _ | _ | _ <;> rfl

/-- The view `r` is named like the sink `r'` of a job of the same kind, but for `sink_`. -/
def Shadows (r r' : Role) : Prop :=
  r = filterView r'.kind ∧ (r' = behaviorSink ∨ r' = ruleSink)

instance (r r' : Role) : Decidable (r.Shadows r') :=
  inferInstanceAs (Decidable (_ ∧ _))

theorem stem_of_shadows {r r' : Role} (h : r.Shadows r') : r'.stem = r.stem ++ "sink_" := by
  obtain ⟨rfl, rfl | rfl⟩ := h <;> rfl

/-- **A stem begins no other**, but for that of a view and a sink. -/
theorem eq_or_shadows_of_prefix {r r' : Role} (h : r.stem.toList <+: r'.stem.toList) :
    r = r' ∨ r.Shadows r' := by
  revert h
  rcases r with (_ | _) | (_ | _) | _ | _ | _ | _ <;>
    rcases r' with (_ | _) | (_ | _) | _ | _ | _ | _ <;> decide

/-! ## 3. Equal names -/

/-- Two names of which the stem of one begins that of the other. -/
theorem eq_or_sink_of_prefix {r r' : Role} {id id' : String}
    (hp : r.stem.toList <+: r'.stem.toList) (h : r.stem ++ id = r'.stem ++ id') :
    (r = r' ∧ id = id') ∨ (r.Shadows r' ∧ id = "sink_" ++ id') := by
  rcases eq_or_shadows_of_prefix hp with rfl | hs
  · exact Or.inl ⟨rfl, (String.append_right_inj _).mp h⟩
  · rw [stem_of_shadows hs, String.append_assoc] at h
    exact Or.inr ⟨hs, (String.append_right_inj _).mp h⟩

/-- **Two names are equal** exactly if role and id are, or if one is that of a view and the other
    that of a sink which the view shadows. -/
theorem name_eq_name_iff (r r' : Role) (id id' : String) :
    r.name id = r'.name id' ↔ (r = r' ∧ id = id') ∨
      (r.Shadows r' ∧ id = "sink_" ++ id') ∨ (r'.Shadows r ∧ id' = "sink_" ++ id) := by
  rw [name_eq, name_eq]
  constructor
  · intro h
    have hl : r.stem.toList ++ id.toList = r'.stem.toList ++ id'.toList := by
      rw [← String.toList_append, h, String.toList_append]
    have hp : r.stem.toList <+: r'.stem.toList ++ id'.toList := hl ▸ List.prefix_append _ _
    rcases List.prefix_or_prefix_of_prefix hp (List.prefix_append _ _) with hp | hp
    · rcases eq_or_sink_of_prefix hp h with same | clash
      · exact Or.inl same
      · exact Or.inr (Or.inl clash)
    · rcases eq_or_sink_of_prefix hp h.symm with ⟨rfl, rfl⟩ | clash
      · exact Or.inl ⟨rfl, rfl⟩
      · exact Or.inr (Or.inr clash)
  · rintro (⟨rfl, rfl⟩ | ⟨hs, rfl⟩ | ⟨hs, rfl⟩)
    · rfl
    · rw [stem_of_shadows hs, String.append_assoc]
    · rw [stem_of_shadows hs, String.append_assoc]

/-- An id does not begin with something and then itself, so one job has no two equal names. -/
theorem name_injective (id : String) : Function.Injective fun r : Role => r.name id := by
  intro r r' h
  have longer : id ≠ "sink_" ++ id := by
    intro he
    have hlength := congrArg String.length he
    rw [String.length_append, show "sink_".length = 5 from rfl] at hlength
    omega
  rcases (name_eq_name_iff r r' id id).mp h with same | clash | clash
  · exact same.1
  · exact absurd clash.2 longer
  · exact absurd clash.2 longer

theorem kind_eq_of_shadows {r r' : Role} (h : r.Shadows r') : r.kind = r'.kind := by
  rw [h.1]
  rfl

end Role

/-! ## 4. The objects of a plan -/

/-- The objects that the statements of a plan create, in order. -/
def Plan.objects (p : Plan) : List String := p.steps.filterMap fun s => s.statement.creates

/-- A plan creates the objects of its job's kind, each under its name. -/
theorem Job.objects_plan {job : Job} {ctx : PlanContext} {p : Plan} (h : job.plan ctx = .ok p) :
    p.objects = (Role.ofKind job.kind).map (·.name job.id) := by
  have hobjects : p.objects =
      (p.steps.map fun s => s.statement.creates).filterMap fun created => created := by
    rw [List.filterMap_map]
    rfl
  cases job with
  | behavior job =>
    obtain ⟨_, _, _, hp⟩ := (job.plan_eq_ok_iff ctx p).mp h
    rw [hobjects, hp.map_steps fun entry => entry.2.2.creates]
    rfl
  | rule job =>
    obtain ⟨_, _, hp⟩ := (job.plan_eq_ok_iff ctx p).mp h
    rw [hobjects, hp.map_steps fun entry => entry.2.2.creates]
    rfl

/-- **When the names of created objects clash.** A plan creates the objects of its job's kind, no
    two under one name. The names of two objects are equal exactly if kind, role and id are the
    same, or if the kind is the same, one object is a filter view, the other the sink of a behavior
    or of a rule, and the id of the view's job is `sink_` and the id of the sink's job. So jobs of
    different kinds never clash, and a tracking id belongs to one kind and one id. -/
theorem created_names_clash_iff :
    (∀ (job : Job) (ctx : PlanContext) (p : Plan), job.plan ctx = .ok p →
      p.objects = (Role.ofKind job.kind).map (·.name job.id) ∧ p.objects.Nodup) ∧
    (∀ (r : Role) (kind : JobKind), r ∈ Role.ofKind kind ↔ r.kind = kind) ∧
    (∀ (r r' : Role) (id id' : String), r.name id = r'.name id' ↔ (r = r' ∧ id = id') ∨
      (r.Shadows r' ∧ id = "sink_" ++ id') ∨ (r'.Shadows r ∧ id' = "sink_" ++ id)) ∧
    (∀ (r r' : Role) (id id' : String), r.kind ≠ r'.kind → r.name id ≠ r'.name id') ∧
    (∀ (kind kind' : JobKind) (id id' : String),
      kind.namespaced id = kind'.namespaced id' ↔ kind = kind' ∧ id = id') := by
  refine ⟨fun job ctx p hp => ?_, Role.mem_ofKind_iff, Role.name_eq_name_iff,
    fun r r' id id' hkind h => ?_, fun kind kind' id id' => ⟨JobKind.namespaced_inj, ?_⟩⟩
  · have hobjects := Job.objects_plan hp
    refine ⟨hobjects, ?_⟩
    rw [hobjects]
    exact (Role.nodup_ofKind job.kind).map (Role.name_injective job.id)
  · rcases (Role.name_eq_name_iff r r' id id').mp h with ⟨rfl, _⟩ | ⟨hs, _⟩ | ⟨hs, _⟩
    · exact hkind rfl
    · exact hkind (Role.kind_eq_of_shadows hs)
    · exact hkind (Role.kind_eq_of_shadows hs).symm
  · rintro ⟨rfl, rfl⟩
    rfl

/-- The behaviors `b1` and `sink_b1` have plans that both create `behavior_sink_b1`. -/
theorem created_names_clash_sink_b1 :
    ∃ p q, (Job.behavior .failedLogin).plan .sample = .ok p ∧
      (Job.behavior { BehaviorJob.failedLogin with id := "sink_b1" }).plan .sample = .ok q ∧
      p.objects.Nodup ∧ q.objects.Nodup ∧
      Role.behaviorSink.name "b1" ∈ p.objects ∧ Role.behaviorSink.name "b1" ∈ q.objects := by
  obtain ⟨hplan, _, hclash, _⟩ := created_names_clash_iff
  obtain ⟨p, hp⟩ := BehaviorJob.failedLogin_planned
  obtain ⟨q, hq⟩ := (Job.behavior { BehaviorJob.failedLogin with id := "sink_b1" })
    |>.exists_plan_of_faultless (by decide +kernel) .sample
  obtain ⟨hpobjects, hpnodup⟩ := hplan (.behavior .failedLogin) .sample p hp
  obtain ⟨hqobjects, hqnodup⟩ := hplan _ .sample q hq
  have hsame : (Role.filterView .behavior).name "sink_b1" = Role.behaviorSink.name "b1" :=
    (hclash _ _ _ _).mpr (Or.inr (Or.inl ⟨by decide, rfl⟩))
  refine ⟨p, q, hp, hq, hpnodup, hqnodup, ?_, ?_⟩
  · rw [hpobjects]
    exact List.mem_map.mpr ⟨.behaviorSink, by decide, rfl⟩
  · rw [hqobjects]
    exact List.mem_map.mpr ⟨.filterView .behavior, by decide, hsame⟩

end JobKeeper
