/-
  File:      JobKeeper/Proofs/Sql/Options.lean
  Subject:   The option list of a connector clause, read back from its text by the rule of literals.

  A key and a value may hold anything: quotes, commas, equals signs, whole statements. Read from the
  start, where a literal ends with the first quote that is not doubled, the text still shows the
  options that were set and no others.

  * `Literal.read_eq_some_iff`, `readOption_eq_some_iff`: a literal, and an option, is read off
    where it is written and nowhere else;
  * `readOptions_optionsText`, `eq_of_readOptions`: so are options with a comma between each two;
  * `Connector.options_ofList`: the options that were set are the map of the settings;
  * `Connector.clause_reads_back`: the clause of any settings, and the two clauses of a plan.
-/
import JobKeeper.Plan.Basic
import JobKeeper.Proofs.Dict
import JobKeeper.Proofs.Sql.Faults
import JobKeeper.Proofs.Text.ByteOrder

namespace JobKeeper.Sql

/-! ## 1. Literals -/

namespace Literal

/-- What is read as the inside of a literal is a text with its quotes doubled, up to the quote that
    closes it. -/
theorem eq_of_readBody {cs s rest : List Char} (h : readBody cs = some (s, rest)) :
    cs = double s ++ '\'' :: rest ∧ rest.head? ≠ some '\'' := by
  induction cs using readBody.induct generalizing s rest with
  | case1 => cases h
  | case2 cs ih =>
    obtain ⟨r, hr, heq⟩ := Option.map_eq_some_iff.mp h
    obtain ⟨rfl, rfl⟩ := Prod.mk.inj heq
    obtain ⟨hcs, hrest⟩ := ih hr
    refine ⟨?_, hrest⟩
    rw [hcs]
    rfl
  | case3 cs hnot =>
    rw [readBody, if_pos rfl] at h
    · obtain ⟨rfl, rfl⟩ := Prod.mk.inj (Option.some.inj h)
      refine ⟨rfl, fun hhead => ?_⟩
      obtain ⟨more, rfl⟩ := List.head?_eq_some_iff.mp hhead
      exact hnot more rfl rfl
    · exact hnot
  | case4 c cs hnot hc ih =>
    rw [readBody, if_neg hc] at h
    · obtain ⟨r, hr, heq⟩ := Option.map_eq_some_iff.mp h
      obtain ⟨rfl, rfl⟩ := Prod.mk.inj heq
      obtain ⟨hcs, hrest⟩ := ih hr
      refine ⟨?_, hrest⟩
      rw [hcs, double, if_neg hc]
      rfl
    · exact hnot

/-- **A literal is read off exactly where one is written** and no further quote follows it. -/
theorem read_eq_some_iff {cs rest : List Char} {value : String} :
    read cs = some (value, rest) ↔
      cs = (quote value).toList ++ rest ∧ rest.head? ≠ some '\'' := by
  constructor
  · intro h
    cases cs with
    | nil => cases h
    | cons c cs =>
      by_cases hc : c = '\''
      · rw [read, if_pos hc] at h
        obtain ⟨r, hr, heq⟩ := Option.map_eq_some_iff.mp h
        obtain ⟨rfl, rfl⟩ := Prod.mk.inj heq
        obtain ⟨hcs, hrest⟩ := eq_of_readBody hr
        refine ⟨?_, hrest⟩
        rw [hc, hcs, toList_quote, String.toList_ofList]
        simp
      · rw [read, if_neg hc] at h
        cases h
  · intro h
    obtain ⟨rfl, hrest⟩ := h
    exact read_quote value rest hrest

end Literal

/-! ## 2. Options -/

/-- An option off the front of a text: its key and its value as literals with ` = ` in between, and
    what follows them. -/
def readOption (cs : List Char) : Option ((String × String) × List Char) :=
  match Literal.read cs with
  | some (key, ' ' :: '=' :: ' ' :: rest) =>
    (Literal.read rest).map fun r => ((key, r.1), r.2)
  | _ => none

theorem toList_optionText (key value : String) :
    (Connector.optionText key value).toList =
      (Literal.quote key).toList ++ ' ' :: '=' :: ' ' :: (Literal.quote value).toList := by
  have hequals : " = ".toList = [' ', '=', ' '] := rfl
  rw [Connector.optionText, String.toList_append, String.toList_append, hequals]
  simp

theorem readOption_eq_some_iff {cs rest : List Char} {key value : String} :
    readOption cs = some ((key, value), rest) ↔
      cs = (Connector.optionText key value).toList ++ rest ∧ rest.head? ≠ some '\'' := by
  rw [toList_optionText]
  constructor
  · intro h
    unfold readOption at h
    split at h
    · next key' rest' hkey =>
      obtain ⟨r, hr, heq⟩ := Option.map_eq_some_iff.mp h
      obtain ⟨hoption, rfl⟩ := Prod.mk.inj heq
      obtain ⟨rfl, rfl⟩ := Prod.mk.inj hoption
      obtain ⟨hcs, _⟩ := Literal.read_eq_some_iff.mp hkey
      obtain ⟨hrest', hrest⟩ := Literal.read_eq_some_iff.mp hr
      refine ⟨?_, hrest⟩
      rw [hcs, hrest']
      simp
    · cases h
  · intro h
    obtain ⟨rfl, hrest⟩ := h
    have hkey : Literal.read ((Literal.quote key).toList ++
        ' ' :: '=' :: ' ' :: ((Literal.quote value).toList ++ rest)) =
          some (key, ' ' :: '=' :: ' ' :: ((Literal.quote value).toList ++ rest)) :=
      Literal.read_quote key _ (by simp)
    have hvalue := Literal.read_quote value rest hrest
    rw [List.append_assoc, List.cons_append, List.cons_append, List.cons_append]
    simp only [readOption, hkey, hvalue, Option.map_some]

/-- What follows an option is shorter than the text that it is read off. -/
theorem length_of_readOption {cs rest : List Char} {option : String × String}
    (h : readOption cs = some (option, rest)) : rest.length < cs.length := by
  obtain ⟨key, value⟩ := option
  obtain ⟨hcs, _⟩ := readOption_eq_some_iff.mp h
  have hlength := congrArg List.length hcs
  rw [List.length_append, toList_optionText, List.length_append, List.length_cons] at hlength
  omega

/-- The options off the front of a text, with one comma between each two, and what follows the last
    of them. -/
def readOptions (cs : List Char) : Option (List (String × String) × List Char) :=
  match _h : readOption cs with
  | none => none
  | some (option, ',' :: more) => (readOptions more).map fun r => (option :: r.1, r.2)
  | some (option, rest) => some ([option], rest)
termination_by cs.length
decreasing_by
  have hshorter := length_of_readOption ‹readOption cs = some (option, ',' :: more)›
  rw [List.length_cons] at hshorter
  omega

/-- An option that no comma follows is the last one. -/
theorem readOptions_of_last {cs rest : List Char} {option : String × String}
    (h : readOption cs = some (option, rest)) (hrest : rest.head? ≠ some ',') :
    readOptions cs = some ([option], rest) := by
  unfold readOptions
  split
  · next hnone =>
    rw [h] at hnone
    cases hnone
  · next option' more hmore =>
    rw [h] at hmore
    cases hmore
    exact absurd rfl hrest
  · next option' rest' _ hlast =>
    rw [h] at hlast
    cases hlast
    rfl

/-- After an option and a comma the other options are due. -/
theorem readOptions_of_more {cs more : List Char} {option : String × String}
    (h : readOption cs = some (option, ',' :: more)) :
    readOptions cs = (readOptions more).map fun r => (option :: r.1, r.2) := by
  conv => lhs; unfold readOptions
  split
  · next hnone =>
    rw [h] at hnone
    cases hnone
  · next option' more' hmore =>
    rw [h] at hmore
    cases hmore
    rfl
  · next option' rest' hnot hlast =>
    rw [h] at hlast
    cases hlast
    exact absurd rfl (hnot more)

/-- Options as they are written: each as two literals, with a comma between each two. -/
def optionsText (options : List (String × String)) : String :=
  Text.join "," (options.map fun o => Connector.optionText o.1 o.2)

theorem toList_optionsText_cons (option : String × String) {options : List (String × String)}
    (h : options ≠ []) :
    (optionsText (option :: options)).toList =
      (Connector.optionText option.1 option.2).toList ++ ',' :: (optionsText options).toList := by
  have hmap : options.map (fun o => Connector.optionText o.1 o.2) ≠ [] := by simpa using h
  have hcomma : ",".toList = [','] := rfl
  rw [optionsText, List.map_cons, Text.join_cons, if_neg hmap, String.toList_append,
    String.toList_append, hcomma]
  simp [optionsText]

/-- What is read as options is their text. -/
theorem eq_of_readOptions {cs rest : List Char} {options : List (String × String)}
    (h : readOptions cs = some (options, rest)) :
    options ≠ [] ∧ cs = (optionsText options).toList ++ rest := by
  induction cs using readOptions.induct generalizing options rest with
  | case1 cs hnone =>
    unfold readOptions at h
    split at h
    · cases h
    · next hsome => rw [hnone] at hsome; cases hsome
    · next hsome => rw [hnone] at hsome; cases hsome
  | case2 cs option more hmore ih =>
    rw [readOptions_of_more hmore] at h
    obtain ⟨r, hr, heq⟩ := Option.map_eq_some_iff.mp h
    obtain ⟨rfl, rfl⟩ := Prod.mk.inj heq
    obtain ⟨hsome, hcs⟩ := ih hr
    obtain ⟨hoption, _⟩ := readOption_eq_some_iff.mp hmore
    refine ⟨List.cons_ne_nil _ _, ?_⟩
    rw [toList_optionsText_cons option hsome, hoption, hcs]
    simp
  | case3 cs option rest' hnot hlast =>
    have hrest' : rest'.head? ≠ some ',' := by
      intro hhead
      obtain ⟨more, rfl⟩ := List.head?_eq_some_iff.mp hhead
      exact hnot more rfl
    rw [readOptions_of_last hlast hrest'] at h
    cases h
    exact ⟨List.cons_ne_nil _ _, (readOption_eq_some_iff.mp hlast).1⟩

/-- **Options read back from their text**, whatever their keys and values hold, as long as what
    follows begins with neither a quote nor a comma. -/
theorem readOptions_optionsText {options : List (String × String)} (h : options ≠ [])
    {rest : List Char} (hquote : rest.head? ≠ some '\'') (hcomma : rest.head? ≠ some ',') :
    readOptions ((optionsText options).toList ++ rest) = some (options, rest) := by
  induction options with
  | nil => exact absurd rfl h
  | cons option options ih =>
    by_cases hlast : options = []
    · subst hlast
      exact readOptions_of_last (readOption_eq_some_iff.mpr ⟨rfl, hquote⟩) hcomma
    · have hmore : readOption ((optionsText (option :: options)).toList ++ rest) =
          some (option, ',' :: ((optionsText options).toList ++ rest)) := by
        refine readOption_eq_some_iff.mpr ⟨?_, by simp⟩
        rw [toList_optionsText_cons option hlast]
        simp
      rw [readOptions_of_more hmore, ih hlast, Option.map_some]

/-! ## 3. The options of a connector -/

namespace Connector

/-- **The options are the map of the settings**, in which the last setting of a key counts. -/
theorem options_ofList (settings : List (String × String)) :
    (ofList settings).options = Dict.ofList settings := by
  have from_options : ∀ (settings : List (String × String)) (c : Connector),
      (settings.foldl (fun c o => c.set o.1 o.2) c).options =
        settings.foldl (fun d e => d.insert e.1 e.2) c.options := by
    intro settings
    induction settings with
    | nil => exact fun _ => rfl
    | cons setting settings ih => exact fun c => ih (c.set setting.1 setting.2)
  exact from_options settings {}

/-- A key has this value in a list of settings: it is the last one that is set for it. -/
def LastSet (settings : List (String × String)) (key value : String) : Prop :=
  ∃ before after, settings = before ++ (key, value) :: after ∧ ∀ later ∈ after, later.1 ≠ key

theorem mem_options_iff (settings : List (String × String)) (key value : String) :
    (key, value) ∈ (ofList settings).options.entries ↔ LastSet settings key value := by
  rw [options_ofList]
  exact Dict.mem_entries_ofList_iff settings key value

/-- Settings with the same last values have the same options. -/
theorem options_eq_iff (settings settings' : List (String × String)) :
    (ofList settings').options = (ofList settings).options ↔
      ∀ key value, LastSet settings' key value ↔ LastSet settings key value := by
  constructor
  · intro h key value
    rw [← mem_options_iff, ← mem_options_iff, h]
  · intro h
    refine Dict.ext fun key => Option.ext fun value => ?_
    rw [Dict.get?_eq_some_iff, Dict.get?_eq_some_iff, mem_options_iff, mem_options_iff]
    exact h key value

theorem entries_ne_nil {settings : List (String × String)} (h : settings ≠ []) :
    (ofList settings).options.entries ≠ [] := by
  have hsome : (ofList settings).options.isEmpty = false := by
    rw [isEmpty_ofList]
    simpa using h
  simpa [Dict.isEmpty] using hsome

/-- Some settings make a clause, and its text is that of their options. -/
theorem render_ofList {settings : List (String × String)} (h : settings ≠ []) (text : String) :
    (ofList settings).render = .ok text ↔
      text = optionsText (ofList settings).options.entries := by
  have hsome : (ofList settings).options.isEmpty = false := by
    simpa [Dict.isEmpty] using entries_ne_nil h
  rw [render_eq_ok_iff]
  exact ⟨fun hr => hr.2, fun ht => ⟨hsome, ht⟩⟩

/-- A text of options is the text of no other options. -/
theorem eq_of_optionsText_eq {options options' : List (String × String)} (h : options ≠ [])
    (h' : options' ≠ []) (heq : optionsText options = optionsText options') :
    options = options' := by
  have hread : readOptions ((optionsText options).toList ++ []) = some (options, []) :=
    readOptions_optionsText h (by simp) (by simp)
  have hread' : readOptions ((optionsText options').toList ++ []) = some (options', []) :=
    readOptions_optionsText h' (by simp) (by simp)
  rw [heq, hread'] at hread
  exact (Prod.mk.inj (Option.some.inj hread)).1.symm

end Connector

/-! ## 4. The clauses of tables -/

/-- The options of a sink, in the order of their keys. -/
theorem entries_sinkConnector (stream : Stream) (ctx : PlanContext) :
    (Plan.sinkConnector stream ctx).options.entries =
      [("connector", "kafka"), ("format", "json"),
       ("properties.bootstrap.servers", stream.bootstrapServers),
       ("properties.group.id", ctx.groupId), ("topic", stream.topic)] := by
  simp only [Plan.sinkConnector, Plan.connectorOptions, Connector.ofList, Connector.set,
    List.foldl_cons, List.foldl_nil, Dict.empty, Dict.insert, Dict.put, String.reduceLT, reduceIte]

/-- The options of a source, in the order of their keys. -/
theorem entries_sourceConnector (stream : Stream) (ctx : PlanContext) :
    (Plan.sourceConnector stream ctx).options.entries =
      [("connector", "kafka"), ("format", "json"), ("json.fail-on-missing-field", "false"),
       ("json.ignore-parse-errors", "true"), ("json.timestamp-format.standard", "ISO-8601"),
       ("properties.bootstrap.servers", stream.bootstrapServers),
       ("properties.group.id", ctx.groupId), ("scan.startup.mode", "earliest-offset"),
       ("topic", stream.topic)] := by
  simp only [Plan.sourceConnector, Plan.connectorOptions, Connector.ofList, Connector.set,
    List.cons_append, List.nil_append, List.foldl_cons, List.foldl_nil, Dict.empty, Dict.insert,
    Dict.put, String.reduceLT, reduceIte]

namespace Connector

/-- **A clause is read back as it was set**, whatever the keys and values hold. Any settings, if
    there are some, make a clause. Read by the rule of literals its text shows the last value of
    each key and nothing else, in strictly ascending order of the bytes of the keys and with one
    comma between each two, and ends where it ended when it was written. No other text is read so,
    and other settings have this text exactly if they leave each key with the same value, so that
    the order of settings with different keys does not matter. In particular the clauses of a
    plan's tables show the topic, the servers and the consumer group that they were given, each in
    its place between the options that never change, up to the bracket after the clause. -/
theorem clause_reads_back (settings : List (String × String)) (h : settings ≠ []) :
    (∃ text options, (ofList settings).render = .ok text ∧
      options.Pairwise (fun a b => Text.utf8Bytes a.1 < Text.utf8Bytes b.1) ∧
      (∀ key value, (key, value) ∈ options ↔ LastSet settings key value) ∧
      (∀ rest, rest.head? ≠ some '\'' → rest.head? ≠ some ',' →
        readOptions (text.toList ++ rest) = some (options, rest)) ∧
      (∀ text', readOptions text'.toList = some (options, []) → text' = text) ∧
      (∀ settings', (ofList settings').render = .ok text ↔
        ∀ key value, LastSet settings' key value ↔ LastSet settings key value) ∧
      ∀ settings', settings'.Perm settings → (settings.map (·.1)).Nodup →
        (ofList settings').render = .ok text) ∧
    ∀ (stream : Stream) (ctx : PlanContext), ∃ source sink,
      (Plan.sourceConnector stream ctx).render = .ok source ∧
      (Plan.sinkConnector stream ctx).render = .ok sink ∧
      readOptions (source.toList ++ [')']) = some
        ([("connector", "kafka"), ("format", "json"), ("json.fail-on-missing-field", "false"),
          ("json.ignore-parse-errors", "true"), ("json.timestamp-format.standard", "ISO-8601"),
          ("properties.bootstrap.servers", stream.bootstrapServers),
          ("properties.group.id", ctx.groupId), ("scan.startup.mode", "earliest-offset"),
          ("topic", stream.topic)], [')']) ∧
      readOptions (sink.toList ++ [')']) = some
        ([("connector", "kafka"), ("format", "json"),
          ("properties.bootstrap.servers", stream.bootstrapServers),
          ("properties.group.id", ctx.groupId), ("topic", stream.topic)], [')']) := by
  constructor
  · have hsome := entries_ne_nil h
    have hascending : (ofList settings).options.entries.Pairwise
        fun a b => Text.utf8Bytes a.1 < Text.utf8Bytes b.1 :=
      (ofList settings).options.ascending.imp fun hab => (Text.lt_iff_utf8Bytes_lt _ _).mp hab
    have hsame : ∀ settings', (ofList settings').render =
          .ok (optionsText (ofList settings).options.entries) ↔
        ∀ key value, LastSet settings' key value ↔ LastSet settings key value := by
      intro settings'
      rw [← options_eq_iff]
      by_cases h' : settings' = []
      · subst h'
        refine ⟨fun hr => (nomatch hr), fun heq => absurd (congrArg Dict.entries heq) hsome.symm⟩
      · rw [render_ofList h']
        constructor
        · intro htext
          exact Dict.entries_injective (eq_of_optionsText_eq (entries_ne_nil h') hsome htext.symm)
        · intro heq
          rw [heq]
    refine ⟨optionsText (ofList settings).options.entries, (ofList settings).options.entries,
      (render_ofList h _).mpr rfl, hascending, mem_options_iff settings,
      fun rest hquote hcomma => readOptions_optionsText hsome hquote hcomma, ?_, hsame, ?_⟩
    · intro text' hread
      have htext' := (eq_of_readOptions hread).2
      rw [List.append_nil] at htext'
      exact String.toList_inj.mp htext'
    · intro settings' hperm hkeys
      have hoptions : (ofList settings').options = (ofList settings).options := by
        rw [options_ofList, options_ofList]
        exact Dict.ofList_perm hperm ((hperm.map _).nodup_iff.mpr hkeys)
      exact (hsame settings').mpr ((options_eq_iff settings settings').mp hoptions)
  · intro stream ctx
    have hquote : ([')'] : List Char).head? ≠ some '\'' := by decide
    have hcomma : ([')'] : List Char).head? ≠ some ',' := by decide
    have hsource := entries_sourceConnector stream ctx
    have hsink := entries_sinkConnector stream ctx
    refine ⟨optionsText (Plan.sourceConnector stream ctx).options.entries,
      optionsText (Plan.sinkConnector stream ctx).options.entries,
      (render_ofList (List.cons_ne_nil _ _) _).mpr rfl,
      (render_ofList (List.cons_ne_nil _ _) _).mpr rfl, ?_, ?_⟩
    · rw [← hsource]
      exact readOptions_optionsText (by rw [hsource]; simp) hquote hcomma
    · rw [← hsink]
      exact readOptions_optionsText (by rw [hsink]; simp) hquote hcomma

/-- A value that looks like the end of its literal and a further option, under a key that was set
    before. -/
theorem clause_reads_back_further_option :
    let settings := [("topic", "events"), ("connector", "kafka"), ("topic", "x','format' = '''")]
    settings ≠ [] ∧ ∃ text options, (ofList settings).render = .ok text ∧
      readOptions text.toList = some (options, []) ∧
      ("topic", "x','format' = '''") ∈ options ∧ ("topic", "events") ∉ options ∧
      ("format", "''") ∉ options := by
  intro settings
  have hsome : settings ≠ [] := List.cons_ne_nil _ _
  obtain ⟨text, options, hrender, _, hlast, hread, _⟩ := (clause_reads_back settings hsome).1
  have hwhole := hread [] (by decide) (by decide)
  rw [List.append_nil] at hwhole
  refine ⟨hsome, text, options, hrender, hwhole, ?_, ?_, ?_⟩
  · rw [hlast]
    exact ⟨[("topic", "events"), ("connector", "kafka")], [], rfl, by simp⟩
  · rw [hlast, ← mem_options_iff]
    decide +kernel
  · rw [hlast, ← mem_options_iff]
    decide +kernel

end Connector

end JobKeeper.Sql
