/-
  File:      JobKeeper/Proofs/Command/Flags.lean
  Subject:   Which arguments are flags, and what reading them gives, said by positions.

  Whether an argument is a flag depends on all that stands before it: after a flag the next argument
  is its value, whatever it looks like. So the positions are described first, and what is read is
  then said by positions alone, with no values so far.

  * `Text.Unsigned.read_eq_ok_iff`: the texts that are read as a number, and their number;
  * `FlagPosition`, `flagPosition_iff`: the positions that are reached, from their first one on;
  * `FlagValues.shows_readOn`, `FlagValues.offends_readOn`: what is read on from a position, and
    what is wrong with it, by one induction along the positions each;
  * `FlagValues.readOn_kept`: arguments that are passed over may as well not be there;
  * `FlagValues.read_by_positions`: the values, the error and the deletions from the whole.
-/
import JobKeeper.Command.Flags
import JobKeeper.Proofs.Except
import Mathlib.Tactic.ByContra

namespace JobKeeper

/-! ## 1. Numbers -/

namespace Text.Unsigned

/-- A number with one more digit. -/
def push (n : Nat) (c : Char) : Nat := 10 * n + (c.toNat - 48)

/-- A text denotes a number: it is its decimal digits, at least one of them, with leading zeros or
    without, after an optional plus sign. -/
def Denotes (s : String) (n : Nat) : Prop :=
  ∃ digits : List Char, digits ≠ [] ∧ (∀ c ∈ digits, c.isDigit = true) ∧
    (s.toList = digits ∨ s.toList = '+' :: digits) ∧ digits.foldl push 0 = n

theorem le_push (n : Nat) (c : Char) : n ≤ push n c := by
  rw [push]
  omega

theorem le_foldl_push (digits : List Char) (n : Nat) : n ≤ digits.foldl push n := by
  induction digits generalizing n with
  | nil => exact Nat.le_refl n
  | cons c digits ih => exact Nat.le_trans (le_push n c) (ih (push n c))

/-- Digits are read exactly if they are digits and their number stays within the limit: a number
    that has passed it on the way stays beyond it. -/
theorem readDigits_eq_ok_iff {limit n m : Nat} {cs : List Char} (hn : n ≤ limit) :
    readDigits limit n cs = .ok m ↔
      (∀ c ∈ cs, c.isDigit = true) ∧ cs.foldl push n = m ∧ m ≤ limit := by
  induction cs generalizing n with
  | nil =>
    constructor
    · intro h
      cases h
      exact ⟨by simp, rfl, hn⟩
    · intro h
      obtain ⟨_, rfl, _⟩ := h
      rfl
  | cons c cs ih =>
    rw [readDigits, List.forall_mem_cons, List.foldl_cons]
    by_cases hc : c.isDigit = true
    · rw [if_pos hc]
      show (if push n c ≤ limit then readDigits limit (push n c) cs else .error .tooLarge) = _ ↔ _
      by_cases hle : push n c ≤ limit
      · rw [if_pos hle, ih hle]
        simp [hc]
      · rw [if_neg hle]
        refine ⟨fun h => (nomatch h), fun h => ?_⟩
        have hgrown := le_foldl_push cs (push n c)
        omega
    · rw [if_neg hc]
      exact ⟨fun h => (nomatch h), fun h => absurd h.1.1 hc⟩

/-- **A text is read as a number exactly if it denotes it** and the number is within the limit. -/
theorem read_eq_ok_iff {limit n : Nat} {s : String} :
    read limit s = .ok n ↔ Denotes s n ∧ n ≤ limit := by
  have hplus : Char.isDigit '+' = false := by decide
  constructor
  · intro h
    unfold read at h
    split at h
    · cases h
    · cases h
    · next rest hnot hs =>
      obtain ⟨hdigits, hvalue, hle⟩ := (readDigits_eq_ok_iff (Nat.zero_le limit)).mp h
      exact ⟨⟨rest, hnot, hdigits, .inr hs, hvalue⟩, hle⟩
    · next hsome _ _ =>
      obtain ⟨hdigits, hvalue, hle⟩ := (readDigits_eq_ok_iff (Nat.zero_le limit)).mp h
      exact ⟨⟨s.toList, hsome, hdigits, .inl rfl, hvalue⟩, hle⟩
  · intro h
    obtain ⟨⟨digits, hsome, hdigits, htext, hvalue⟩, hle⟩ := h
    have hread : readDigits limit 0 digits = .ok n :=
      (readDigits_eq_ok_iff (Nat.zero_le limit)).mpr ⟨hdigits, hvalue, hle⟩
    unfold read
    rcases htext with hs | hs
    · rw [hs]
      split
      · exact absurd rfl hsome
      · exact absurd (hdigits '+' (by simp)) (by simp [hplus])
      · exact absurd (hdigits '+' (by simp)) (by simp [hplus])
      · exact hread
    · rw [hs]
      split
      · next hnil => cases hnil
      · next hone => exact absurd (List.cons.inj hone).2 hsome
      · next hcons =>
        obtain ⟨_, rfl⟩ := List.cons.inj hcons
        exact hread
      · next _ hnot => exact absurd rfl (hnot digits)

end Text.Unsigned

/-- A text is a port: it denotes a number of sixteen bits. -/
def IsPort (text : String) (port : Nat) : Prop := Text.Unsigned.Denotes text port ∧ port < 65536

theorem read_port_iff {text : String} {port : Nat} :
    Text.Unsigned.read Config.limit16 text = .ok port ↔ IsPort text port := by
  rw [Text.Unsigned.read_eq_ok_iff, IsPort]
  refine and_congr_right fun _ => ?_
  show port ≤ 65535 ↔ port < 65536
  omega

theorem IsPort.unique {text : String} {port port' : Nat} (h : IsPort text port)
    (h' : IsPort text port') : port = port' :=
  Except.ok.inj ((read_port_iff.mpr h).symm.trans (read_port_iff.mpr h'))

theorem eq_of_rel_isPort {found : Option String} {port port' : Option Nat}
    (h : Option.Rel IsPort found port) (h' : Option.Rel IsPort found port') : port = port' := by
  cases h with
  | none =>
    cases h' with
    | none => rfl
  | some hport =>
    cases h' with
    | some hport' => rw [hport.unique hport']

/-! ## 2. Positions -/

namespace Flag

/-- The spellings of the flags. -/
def spellings : List (String × Flag) :=
  [("--config", .config), ("-c", .config), ("--log-level", .logLevel), ("--api-host", .apiHost),
    ("--api-port", .apiPort), ("--kafka-group-id", .groupId)]

theorem ofArgument?_eq_some_iff {argument : String} {flag : Flag} :
    ofArgument? argument = some flag ↔ (argument, flag) ∈ spellings := by
  constructor
  · intro h
    unfold ofArgument? at h
    grind [spellings]
  · intro h
    simp only [spellings, List.mem_cons, Prod.mk.injEq, List.not_mem_nil, or_false] at h
    rcases h with ⟨rfl, rfl⟩ | ⟨rfl, rfl⟩ | ⟨rfl, rfl⟩ | ⟨rfl, rfl⟩ | ⟨rfl, rfl⟩ | ⟨rfl, rfl⟩ <;>
      rfl

end Flag

/-- The flag that stands at a position. -/
def flagAt? (arguments : List String) (i : Nat) : Option Flag :=
  arguments[i]?.bind Flag.ofArgument?

/-- The position after this one: past the value of a flag that has one, else one further on. -/
def nextPosition (arguments : List String) (i : Nat) : Nat :=
  if (flagAt? arguments i).isSome && (arguments[i + 1]?).isSome then i + 2 else i + 1

/-- **The positions at which an argument is read as a flag or passed over**, not as a value. -/
inductive FlagPosition (arguments : List String) (start : Nat) : Nat → Prop where
  | start : FlagPosition arguments start start
  | next {i : Nat} (h : FlagPosition arguments start i) (hi : i < arguments.length) :
      FlagPosition arguments start (nextPosition arguments i)

section Positions

variable {arguments : List String} {start i j : Nat} {flag : Flag} {value : String}

theorem flagAt?_of_lt (hi : i < arguments.length) :
    flagAt? arguments i = Flag.ofArgument? arguments[i] := by
  rw [flagAt?, List.getElem?_eq_getElem hi, Option.bind_some]

theorem ne_length_of_value (h : arguments[i + 1]? = some value) : i + 1 ≠ arguments.length := by
  have hlt := (List.getElem?_eq_some_iff.mp h).1
  omega

theorem nextPosition_of_none (h : flagAt? arguments i = none) :
    nextPosition arguments i = i + 1 := by
  simp [nextPosition, h]

theorem nextPosition_of_value (h : flagAt? arguments i = some flag)
    (hv : arguments[i + 1]? = some value) : nextPosition arguments i = i + 2 := by
  simp [nextPosition, h, hv]

theorem lt_nextPosition : i < nextPosition arguments i := by
  unfold nextPosition
  split
  · omega
  · omega

theorem nextPosition_le (hi : i < arguments.length) :
    nextPosition arguments i ≤ arguments.length := by
  unfold nextPosition
  split
  · next h =>
    have hvalue : i + 1 < arguments.length := by simpa using (Bool.and_eq_true_iff.mp h).2
    omega
  · omega

/-- **The positions that are reached are the first one and those reached from the next.** -/
theorem flagPosition_iff : FlagPosition arguments start j ↔
    j = start ∨
      (start < arguments.length ∧ FlagPosition arguments (nextPosition arguments start) j) := by
  constructor
  · intro h
    induction h with
    | start => exact .inl rfl
    | next h hi ih =>
      rcases ih with rfl | hlater
      · exact .inr ⟨hi, .start⟩
      · exact .inr ⟨hlater.1, .next hlater.2 hi⟩
  · intro h
    rcases h with rfl | ⟨hstart, hlater⟩
    · exact .start
    · induction hlater with
      | start => exact .next .start hstart
      | next _ hi ih => exact .next ih hi

/-- Of two positions the one is no later, or it is reached from the next of the other. -/
theorem FlagPosition.le_or_later (hi : FlagPosition arguments start i)
    (hj : FlagPosition arguments start j) :
    j ≤ i ∨ FlagPosition arguments (nextPosition arguments i) j := by
  induction hi with
  | start =>
    rcases flagPosition_iff.mp hj with rfl | ⟨_, hlater⟩
    · exact .inl (Nat.le_refl j)
    · exact .inr hlater
  | next _ _ ih =>
    rcases ih with hle | hlater
    · exact .inl (Nat.le_trans hle (Nat.le_of_lt lt_nextPosition))
    · rcases flagPosition_iff.mp hlater with rfl | ⟨_, hlater'⟩
      · exact .inl (Nat.le_refl _)
      · exact .inr hlater'

theorem FlagPosition.start_le (h : FlagPosition arguments start j) : start ≤ j := by
  induction h with
  | start => exact Nat.le_refl start
  | next _ _ ih => exact Nat.le_trans ih (Nat.le_of_lt lt_nextPosition)

/-- The positions end with the arguments. -/
theorem FlagPosition.le_length (h : FlagPosition arguments start j) :
    j ≤ max start arguments.length := by
  cases h with
  | start => exact Nat.le_max_left _ _
  | next _ hi => exact Nat.le_trans (nextPosition_le hi) (Nat.le_max_right _ _)

/-- A flag stands at this position and is read as one. -/
def HoldsFlag (arguments : List String) (start i : Nat) (flag : Flag) : Prop :=
  FlagPosition arguments start i ∧ flagAt? arguments i = some flag

/-- This is the value after the last position that holds the flag, if there is such a position. -/
def LastValue (arguments : List String) (start : Nat) (flag : Flag) : Option String → Prop
  | none => ∀ i, ¬ HoldsFlag arguments start i flag
  | some value => ∃ i, HoldsFlag arguments start i flag ∧ arguments[i + 1]? = some value ∧
      ∀ j, HoldsFlag arguments start j flag → j ≤ i

/-- **An argument at a flag's position is at fault**: a flag that is the last argument, or a port
    flag before a text that is no port. -/
inductive Offends (arguments : List String) (start i : Nat) : FlagError → Prop where
  | missingValue {flag : Flag} (h : HoldsFlag arguments start i flag)
      (hlast : i + 1 = arguments.length) : Offends arguments start i (.missingValue flag)
  | invalidPort {value : String} {cause : Text.Unsigned.Error}
      (h : HoldsFlag arguments start i .apiPort) (hvalue : arguments[i + 1]? = some value)
      (hport : ∀ port, ¬ IsPort value port)
      (hcause : Text.Unsigned.read Config.limit16 value = .error cause) :
      Offends arguments start i (.invalidPort value cause)

theorem HoldsFlag.lt_length (h : HoldsFlag arguments start i flag) : i < arguments.length := by
  obtain ⟨_, hflag⟩ := h
  obtain ⟨argument, hargument, _⟩ := Option.bind_eq_some_iff.mp hflag
  exact (List.getElem?_eq_some_iff.mp hargument).1

theorem holdsFlag_iff : HoldsFlag arguments start j flag ↔
    (j = start ∧ flagAt? arguments start = some flag) ∨
      (start < arguments.length ∧
        HoldsFlag arguments (nextPosition arguments start) j flag) := by
  unfold HoldsFlag
  rw [flagPosition_iff]
  constructor
  · intro h
    obtain ⟨rfl | ⟨hstart, hj⟩, hflag⟩ := h
    · exact .inl ⟨rfl, hflag⟩
    · exact .inr ⟨hstart, hj, hflag⟩
  · intro h
    rcases h with ⟨rfl, hflag⟩ | ⟨hstart, hj, hflag⟩
    · exact ⟨.inl rfl, hflag⟩
    · exact ⟨.inr ⟨hstart, hj⟩, hflag⟩

/-- **An argument that is the value of a flag is not at a position of its own.** -/
theorem HoldsFlag.not_flagPosition_value (h : HoldsFlag arguments start i flag)
    (hvalue : arguments[i + 1]? = some value) : ¬ FlagPosition arguments start (i + 1) := by
  intro hnext
  rcases h.1.le_or_later hnext with hle | hlater
  · omega
  · have hpast := hlater.start_le
    rw [nextPosition_of_value h.2 hvalue] at hpast
    omega

theorem LastValue.unique {found found' : Option String}
    (h : LastValue arguments start flag found) (h' : LastValue arguments start flag found') :
    found = found' := by
  cases found with
  | none =>
    cases found' with
    | none => rfl
    | some value' =>
      obtain ⟨i, hi, _⟩ := h'
      exact absurd hi (h i)
  | some value =>
    obtain ⟨i, hi, hvalue, hlast⟩ := h
    cases found' with
    | none => exact absurd hi (h' i)
    | some value' =>
      obtain ⟨j, hj, hvalue', hlast'⟩ := h'
      have hij : i = j := Nat.le_antisymm (hlast' i hi) (hlast j hj)
      rw [← hvalue, ← hvalue', hij]

/-- A value that is found further on goes before one that is found here. -/
theorem LastValue.of_later (hstart : start < arguments.length)
    (h : LastValue arguments (nextPosition arguments start) flag (some value)) :
    LastValue arguments start flag (some value) := by
  obtain ⟨i, hi, hvalue, hlast⟩ := h
  refine ⟨i, holdsFlag_iff.mpr (.inr ⟨hstart, hi⟩), hvalue, fun j hj => ?_⟩
  rcases holdsFlag_iff.mp hj with ⟨rfl, _⟩ | ⟨_, hj'⟩
  · exact Nat.le_trans (Nat.le_of_lt lt_nextPosition) hi.1.start_le
  · exact hlast j hj'

theorem LastValue.of_here (h : LastValue arguments (nextPosition arguments start) flag none)
    (hflag : flagAt? arguments start = some flag) (hvalue : arguments[start + 1]? = some value) :
    LastValue arguments start flag (some value) := by
  refine ⟨start, ⟨.start, hflag⟩, hvalue, fun j hj => ?_⟩
  rcases holdsFlag_iff.mp hj with ⟨rfl, _⟩ | ⟨_, hj'⟩
  · exact Nat.le_refl j
  · exact absurd hj' (h j)

theorem LastValue.none_of_ne (h : LastValue arguments (nextPosition arguments start) flag none)
    (hflag : flagAt? arguments start ≠ some flag) : LastValue arguments start flag none := by
  intro j hj
  rcases holdsFlag_iff.mp hj with ⟨_, hhere⟩ | ⟨_, hj'⟩
  · exact hflag hhere
  · exact h j hj'

theorem Offends.holdsFlag {error : FlagError} (h : Offends arguments start i error) :
    ∃ flag, HoldsFlag arguments start i flag := by
  cases h with
  | missingValue h _ => exact ⟨_, h⟩
  | invalidPort h _ _ _ => exact ⟨_, h⟩

/-- At one position there is one thing wrong. -/
theorem Offends.unique {error error' : FlagError} (h : Offends arguments start i error)
    (h' : Offends arguments start i error') : error = error' := by
  cases h with
  | missingValue h hlast =>
    cases h' with
    | missingValue h' _ => rw [Option.some.inj (h.2.symm.trans h'.2)]
    | invalidPort _ hvalue _ _ => exact absurd hlast (ne_length_of_value hvalue)
  | invalidPort h hvalue _ hcause =>
    cases h' with
    | missingValue _ hlast => exact absurd hlast (ne_length_of_value hvalue)
    | invalidPort _ hvalue' _ hcause' =>
      cases Option.some.inj (hvalue.symm.trans hvalue')
      cases hcause.symm.trans hcause'
      rfl

/-- What is at fault is at fault further on as well, or else it is here. -/
theorem Offends.here_or_later {error : FlagError} (h : Offends arguments start j error) :
    (j = start ∧ Offends arguments start start error) ∨
      Offends arguments (nextPosition arguments start) j error := by
  obtain ⟨flag, hflag⟩ := h.holdsFlag
  rcases flagPosition_iff.mp hflag.1 with rfl | ⟨_, hj⟩
  · exact .inl ⟨rfl, h⟩
  · right
    cases h with
    | missingValue h hlast => exact .missingValue ⟨hj, h.2⟩ hlast
    | invalidPort h hvalue hport hcause => exact .invalidPort ⟨hj, h.2⟩ hvalue hport hcause

theorem Offends.of_later {error : FlagError} (hstart : start < arguments.length)
    (h : Offends arguments (nextPosition arguments start) j error) :
    Offends arguments start j error := by
  have further : ∀ {flag}, HoldsFlag arguments (nextPosition arguments start) j flag →
      HoldsFlag arguments start j flag :=
    fun hflag => holdsFlag_iff.mpr (.inr ⟨hstart, hflag⟩)
  cases h with
  | missingValue h hlast => exact .missingValue (further h) hlast
  | invalidPort h hvalue hport hcause => exact .invalidPort (further h) hvalue hport hcause

theorem Offends.start_le {error : FlagError} (h : Offends arguments start j error) :
    start ≤ j := by
  obtain ⟨flag, hflag⟩ := h.holdsFlag
  exact hflag.1.start_le

end Positions

/-- What holds at a position as soon as it holds at the next one holds everywhere. -/
theorem position_induction (arguments : List String) {motive : Nat → Prop}
    (step : ∀ i, (i < arguments.length → motive (nextPosition arguments i)) → motive i) (i : Nat) :
    motive i := by
  induction hn : arguments.length - i using Nat.strongRecOn generalizing i with
  | ind n ih =>
    refine step i fun hi => ih (arguments.length - nextPosition arguments i) ?_ _ rfl
    have hlt : i < nextPosition arguments i := lt_nextPosition
    omega

/-! ## 3. Values -/

namespace FlagValues

/-- The values show this text for a flag. A port is shown as the number that the text denotes. -/
def Has (v : FlagValues) : Flag → Option String → Prop
  | .config, found => v.configPath = found
  | .logLevel, found => v.logLevel = found
  | .apiHost, found => v.apiHost = found
  | .apiPort, found => Option.Rel IsPort found v.apiPort
  | .groupId, found => v.groupId = found

/-- **The values show the last text that each flag has**, and nothing for a flag that has none. -/
def Shows (v : FlagValues) (arguments : List String) (start : Nat) : Prop :=
  ∀ flag, ∃ found, LastValue arguments start flag found ∧ v.Has flag found

theorem has_empty (flag : Flag) : Has {} flag none := by
  cases flag with
  | apiPort => exact .none
  | _ => rfl

/-- Values that show the same for each flag are the same. -/
theorem eq_of_has {v v' : FlagValues} (h : ∀ flag, ∃ found, v.Has flag found ∧ v'.Has flag found) :
    v = v' := by
  obtain ⟨_, hconfig, hconfig'⟩ := h .config
  obtain ⟨_, hlevel, hlevel'⟩ := h .logLevel
  obtain ⟨_, hhost, hhost'⟩ := h .apiHost
  obtain ⟨_, hgroup, hgroup'⟩ := h .groupId
  obtain ⟨_, hport, hport'⟩ := h .apiPort
  have hsame : v.apiPort = v'.apiPort := eq_of_rel_isPort hport hport'
  cases v
  cases v'
  simp_all [Has]

theorem Shows.unique {v v' : FlagValues} {arguments : List String} {start : Nat}
    (h : v.Shows arguments start) (h' : v'.Shows arguments start) : v = v' := by
  refine eq_of_has fun flag => ?_
  obtain ⟨found, hlast, hv⟩ := h flag
  obtain ⟨found', hlast', hv'⟩ := h' flag
  rw [hlast'.unique hlast] at hv'
  exact ⟨found, hv, hv'⟩

/-- A flag that is set shows its value, and the others show what they did. -/
theorem has_set {v v' : FlagValues} {flag : Flag} {value : String} (h : v.set flag value = .ok v') :
    v'.Has flag (some value) ∧
      ∀ other found, other ≠ flag → v.Has other found → v'.Has other found := by
  cases flag with
  | apiPort =>
    unfold set at h
    dsimp only at h
    split at h
    · next port hread =>
      cases h
      refine ⟨.some (read_port_iff.mp hread), fun other found hother hv => ?_⟩
      cases other with
      | apiPort => exact absurd rfl hother
      | _ => exact hv
    · cases h
  | _ =>
    cases h
    refine ⟨rfl, fun other found hother hv => ?_⟩
    cases other <;> first | exact hv | exact absurd rfl hother

/-- A value that was set for the port is one. -/
theorem exists_port_of_set {v v' : FlagValues} {value : String}
    (h : v.set .apiPort value = .ok v') : ∃ port, IsPort value port := by
  unfold set at h
  dsimp only at h
  split at h
  · next port hread => exact ⟨port, read_port_iff.mp hread⟩
  · cases h

/-- A value that a flag may not have is no port, and the flag is that of the port. -/
theorem set_eq_error {v : FlagValues} {flag : Flag} {value : String} {error : FlagError}
    (h : v.set flag value = .error error) :
    flag = .apiPort ∧ (∀ port, ¬ IsPort value port) ∧ ∃ cause,
      Text.Unsigned.read Config.limit16 value = .error cause ∧
        error = .invalidPort value cause := by
  cases flag with
  | apiPort =>
    unfold set at h
    dsimp only at h
    split at h
    · cases h
    · next cause hread =>
      cases h
      refine ⟨rfl, fun port hport => ?_, cause, hread, rfl⟩
      cases hread.symm.trans (read_port_iff.mpr hport)
  | _ => cases h

/-! ## 4. Reading on from a position -/

theorem readOn_cons_of_none {argument : String} (h : Flag.ofArgument? argument = none)
    (v : FlagValues) (rest : List String) : v.readOn (argument :: rest) = v.readOn rest := by
  rw [readOn, h]

theorem readOn_cons_of_value {argument value : String} {flag : Flag}
    (h : Flag.ofArgument? argument = some flag) (v : FlagValues) (rest : List String) :
    v.readOn (argument :: value :: rest) = (v.set flag value >>= fun v => v.readOn rest) := by
  rw [readOn, h]
  dsimp only
  cases v.set flag value with
  | ok w => rfl
  | error e => rfl

/-- **What is read on from a position**: nothing, what is read on from the next position, or no
    value for the flag that is there. -/
theorem readOn_cases (v : FlagValues) (arguments : List String) (i : Nat) :
    (arguments.length ≤ i ∧ v.readOn (arguments.drop i) = .ok v) ∨
    (i < arguments.length ∧ flagAt? arguments i = none ∧
      v.readOn (arguments.drop i) = v.readOn (arguments.drop (nextPosition arguments i))) ∨
    (∃ flag, flagAt? arguments i = some flag ∧ i + 1 = arguments.length ∧
      v.readOn (arguments.drop i) = .error (.missingValue flag)) ∨
    (∃ flag value, flagAt? arguments i = some flag ∧ arguments[i + 1]? = some value ∧
      i < arguments.length ∧ v.readOn (arguments.drop i) =
        (v.set flag value >>= fun v => v.readOn (arguments.drop (nextPosition arguments i)))) := by
  by_cases hi : i < arguments.length
  · right
    have hflag : flagAt? arguments i = Flag.ofArgument? arguments[i] := flagAt?_of_lt hi
    rw [List.drop_eq_getElem_cons hi]
    cases hat : flagAt? arguments i with
    | none =>
      left
      rw [nextPosition_of_none hat]
      exact ⟨hi, rfl, readOn_cons_of_none (hflag.symm.trans hat) v _⟩
    | some flag =>
      have hargument := hflag.symm.trans hat
      right
      by_cases hvalue : i + 1 < arguments.length
      · right
        have hsome : arguments[i + 1]? = some arguments[i + 1] := List.getElem?_eq_getElem hvalue
        refine ⟨flag, arguments[i + 1], rfl, hsome, hi, ?_⟩
        rw [List.drop_eq_getElem_cons hvalue, nextPosition_of_value hat hsome]
        exact readOn_cons_of_value hargument v _
      · left
        refine ⟨flag, rfl, by omega, ?_⟩
        rw [List.drop_eq_nil_of_le (by omega), readOn, hargument]
  · exact .inl ⟨by omega, by rw [List.drop_eq_nil_of_le (by omega), readOn]⟩

section AtFault

variable {arguments : List String} {start i : Nat}

theorem not_offends_of_none (h : flagAt? arguments i = none) (error : FlagError) :
    ¬ Offends arguments start i error := by
  intro hbad
  obtain ⟨flag, hflag⟩ := hbad.holdsFlag
  cases h.symm.trans hflag.2

/-- A flag whose value could be set is not at fault. -/
theorem not_offends_of_set {v v' : FlagValues} {flag : Flag} {value : String}
    (hflag : flagAt? arguments i = some flag) (hvalue : arguments[i + 1]? = some value)
    (hset : v.set flag value = .ok v') (error : FlagError) :
    ¬ Offends arguments start i error := by
  intro hbad
  cases hbad with
  | missingValue _ hlast => exact ne_length_of_value hvalue hlast
  | invalidPort hport hvalue' hbad _ =>
    cases hvalue.symm.trans hvalue'
    cases hflag.symm.trans hport.2
    obtain ⟨port, hport⟩ := exists_port_of_set hset
    exact hbad port hport

/-- Nothing is at fault if nothing is here and nothing further on. -/
theorem not_offends_of_later (here : ∀ error, ¬ Offends arguments start start error)
    (later : ∀ j error, ¬ Offends arguments (nextPosition arguments start) j error) :
    ∀ j error, ¬ Offends arguments start j error := by
  intro j error hj
  rcases hj.here_or_later with ⟨_, hhere⟩ | hlater
  · exact here error hhere
  · exact later j error hlater

end AtFault

/-- **What is read on shows the last values, and nothing is at fault.** A flag that is not found
    shows what it did before. -/
theorem shows_readOn (arguments : List String) (i : Nat) : ∀ {v v' : FlagValues},
    v.readOn (arguments.drop i) = .ok v' →
      (∀ j error, ¬ Offends arguments i j error) ∧
      ∀ flag old, v.Has flag old →
        ∃ found, LastValue arguments i flag found ∧ v'.Has flag (found.or old) := by
  induction i using position_induction arguments with
  | step i ih =>
    intro v v' h
    rcases readOn_cases v arguments i with ⟨hend, hread⟩ | ⟨hi, hnone, hread⟩ |
      ⟨flag, _, _, hread⟩ | ⟨flag, value, hflag, hvalue, hi, hread⟩
    · have none_holds : ∀ j flag, ¬ HoldsFlag arguments i j flag := by
        intro j flag hj
        have hle := hj.1.start_le
        have hlt := hj.lt_length
        omega
      refine ⟨fun j error hj => ?_, fun flag old hv => ⟨none, fun j => none_holds j flag, ?_⟩⟩
      · obtain ⟨flag, hflag⟩ := hj.holdsFlag
        exact none_holds j flag hflag
      · rw [hread] at h
        cases h
        exact hv
    · rw [hread] at h
      obtain ⟨hsound, hshows⟩ := ih hi h
      refine ⟨not_offends_of_later (not_offends_of_none hnone) hsound, fun flag old hv => ?_⟩
      obtain ⟨found, hlast, hv'⟩ := hshows flag old hv
      refine ⟨found, ?_, hv'⟩
      cases found with
      | none => exact hlast.none_of_ne (by simp [hnone])
      | some text => exact hlast.of_later hi
    · rw [hread] at h
      cases h
    · rw [hread] at h
      obtain ⟨w, hset, hrest⟩ := bind_eq_ok_iff.mp h
      obtain ⟨hsound, hshows⟩ := ih hi hrest
      obtain ⟨hown, hothers⟩ := has_set hset
      refine ⟨not_offends_of_later (not_offends_of_set hflag hvalue hset) hsound,
        fun other old hv => ?_⟩
      by_cases hother : other = flag
      · subst hother
        obtain ⟨found, hlast, hv'⟩ := hshows other (some value) hown
        cases found with
        | none => exact ⟨some value, hlast.of_here hflag hvalue, hv'⟩
        | some text => exact ⟨some text, hlast.of_later hi, hv'⟩
      · obtain ⟨found, hlast, hv'⟩ := hshows other old (hothers other old hother hv)
        refine ⟨found, ?_, hv'⟩
        cases found with
        | none => exact hlast.none_of_ne (by simp [hflag, Ne.symm hother])
        | some text => exact hlast.of_later hi

/-- **An error that is read is that of the first position at fault.** -/
theorem offends_readOn (arguments : List String) (i : Nat) : ∀ {v : FlagValues} {error : FlagError},
    v.readOn (arguments.drop i) = .error error →
      ∃ j, Offends arguments i j error ∧ ∀ j' error', Offends arguments i j' error' → j ≤ j' := by
  induction i using position_induction arguments with
  | step i ih =>
    intro v error h
    -- What is wrong further on is the first that is wrong as long as nothing is wrong here.
    have further : ∀ {w : FlagValues}, i < arguments.length →
        (∀ error', ¬ Offends arguments i i error') →
        w.readOn (arguments.drop (nextPosition arguments i)) = .error error →
        ∃ j, Offends arguments i j error ∧
          ∀ j' error', Offends arguments i j' error' → j ≤ j' := by
      intro w hi hhere hw
      obtain ⟨j, hj, hfirst⟩ := ih hi hw
      refine ⟨j, hj.of_later hi, fun j' error' hj' => ?_⟩
      rcases hj'.here_or_later with ⟨_, hbad⟩ | hlater
      · exact absurd hbad (hhere error')
      · exact hfirst j' error' hlater
    rcases readOn_cases v arguments i with ⟨_, hread⟩ | ⟨hi, hnone, hread⟩ |
      ⟨flag, hflag, hlast, hread⟩ | ⟨flag, value, hflag, hvalue, hi, hread⟩
    · rw [hread] at h
      cases h
    · rw [hread] at h
      exact further hi (not_offends_of_none hnone) h
    · rw [hread] at h
      cases h
      exact ⟨i, .missingValue ⟨.start, hflag⟩ hlast, fun j' error' hj' => hj'.start_le⟩
    · rw [hread] at h
      cases hset : v.set flag value with
      | ok w =>
        rw [hset] at h
        exact further hi (not_offends_of_set hflag hvalue hset) h
      | error error' =>
        rw [hset] at h
        cases h
        obtain ⟨rfl, hport, cause, hcause, rfl⟩ := set_eq_error hset
        exact ⟨i, .invalidPort ⟨.start, hflag⟩ hvalue hport hcause,
          fun j' error' hj' => hj'.start_le⟩

/-! ## 5. Arguments that are left out -/

/-- The arguments without those at the positions that are not kept, which count from here on. -/
def kept (keep : Nat → Bool) (i : Nat) : List String → List String
  | [] => []
  | argument :: rest =>
    if keep i then argument :: kept keep (i + 1) rest else kept keep (i + 1) rest

/-- What is kept from a position on is what is kept of the arguments from there on. -/
theorem drop_kept (keep : Nat → Bool) (n i : Nat) (arguments : List String) :
    (kept keep i arguments).drop ((List.range' i n).countP keep) =
      kept keep (i + n) (arguments.drop n) := by
  induction n generalizing i arguments with
  | zero => rfl
  | succ n ih =>
    cases arguments with
    | nil => simp [kept]
    | cons argument rest =>
      have hrest := ih (i + 1) rest
      rw [Nat.add_right_comm, Nat.add_assoc] at hrest
      rw [List.range'_succ, List.countP_cons, kept, List.drop_succ_cons, ← hrest]
      by_cases hkeep : keep i = true
      · simp [hkeep]
      · simp [hkeep]

/-- **Arguments that are passed over may be left out.** The flags, and with them their values, stay
    where they are among what is kept. -/
theorem readOn_kept (arguments : List String) (keep : Nat → Bool) (i : Nat) :
    (∀ j, i ≤ j → keep j = false →
      FlagPosition arguments i j ∧ flagAt? arguments j = none) → ∀ v : FlagValues,
    v.readOn (kept keep i (arguments.drop i)) = v.readOn (arguments.drop i) := by
  induction i using position_induction arguments with
  | step i ih =>
    intro hkeep v
    have later : ∀ j, nextPosition arguments i ≤ j → keep j = false →
        FlagPosition arguments (nextPosition arguments i) j ∧ flagAt? arguments j = none := by
      intro j hj hout
      have hlt : i < nextPosition arguments i := lt_nextPosition
      obtain ⟨hposition, hnone⟩ := hkeep j (by omega) hout
      rcases flagPosition_iff.mp hposition with rfl | ⟨_, hlater⟩
      · omega
      · exact ⟨hlater, hnone⟩
    by_cases hi : i < arguments.length
    · have hflag : flagAt? arguments i = Flag.ofArgument? arguments[i] := flagAt?_of_lt hi
      rw [List.drop_eq_getElem_cons hi, kept]
      cases hat : flagAt? arguments i with
      | none =>
        have hpast := ih hi later v
        rw [nextPosition_of_none hat] at hpast
        rw [readOn_cons_of_none (hflag.symm.trans hat), ← hpast]
        split
        · exact readOn_cons_of_none (hflag.symm.trans hat) _ _
        · rfl
      | some flag =>
        have hkept : keep i = true := by
          by_contra hout
          cases hat.symm.trans (hkeep i (Nat.le_refl i) (by simpa using hout)).2
        rw [if_pos hkept]
        by_cases hvalue : i + 1 < arguments.length
        · have hsome : arguments[i + 1]? = some arguments[i + 1] := List.getElem?_eq_getElem hvalue
          have hkept' : keep (i + 1) = true := by
            by_contra hout
            have hposition := (hkeep (i + 1) (Nat.le_succ i) (by simpa using hout)).1
            exact HoldsFlag.not_flagPosition_value ⟨.start, hat⟩ hsome hposition
          have hargument := hflag.symm.trans hat
          rw [List.drop_eq_getElem_cons hvalue, kept, if_pos hkept', readOn_cons_of_value hargument,
            readOn_cons_of_value hargument]
          refine congrArg _ (funext fun w => ?_)
          have hpast := ih hi later w
          rw [nextPosition_of_value hat hsome] at hpast
          exact hpast
        · rw [List.drop_eq_nil_of_le (by omega), kept]
    · rw [List.drop_eq_nil_of_le (by omega), kept]

/-! ## 6. Reading -/

/-- Flags that all have a value, and ports that are ports, are just what is not at fault. -/
theorem not_offends_iff (arguments : List String) (start : Nat) :
    (∀ i error, ¬ Offends arguments start i error) ↔
      (∀ i flag, HoldsFlag arguments start i flag → i + 1 ≠ arguments.length) ∧
      ∀ i text, HoldsFlag arguments start i .apiPort → arguments[i + 1]? = some text →
        ∃ port, IsPort text port := by
  constructor
  · intro h
    refine ⟨fun i flag hflag hlast => h i _ (.missingValue hflag hlast), ?_⟩
    intro i text hflag hvalue
    cases hread : Text.Unsigned.read Config.limit16 text with
    | ok port => exact ⟨port, read_port_iff.mp hread⟩
    | error cause =>
      refine absurd (Offends.invalidPort hflag hvalue (fun port hport => ?_) hread) (h i _)
      cases hread.symm.trans (read_port_iff.mpr hport)
  · intro h i error hbad
    obtain ⟨hvalues, hports⟩ := h
    cases hbad with
    | missingValue hflag hlast => exact hvalues i _ hflag hlast
    | invalidPort hflag hvalue hbad _ =>
      obtain ⟨port, hport⟩ := hports i _ hflag hvalue
      exact hbad port hport

theorem read_eq_ok_iff (arguments : List String) (start : Nat) (values : FlagValues) :
    read arguments start = .ok values ↔
      (∀ i error, ¬ Offends arguments start i error) ∧ values.Shows arguments start := by
  have shows_of_read : ∀ {values}, read arguments start = .ok values →
      (∀ i error, ¬ Offends arguments start i error) ∧ values.Shows arguments start := by
    intro values h
    obtain ⟨hsound, hshows⟩ := shows_readOn arguments start h
    refine ⟨hsound, fun flag => ?_⟩
    obtain ⟨found, hlast, hvalues⟩ := hshows flag none (has_empty flag)
    rw [Option.or_none] at hvalues
    exact ⟨found, hlast, hvalues⟩
  refine ⟨shows_of_read, fun h => ?_⟩
  obtain ⟨hsound, hshows⟩ := h
  cases hread : read arguments start with
  | ok values' => rw [(shows_of_read hread).2.unique hshows]
  | error error =>
    obtain ⟨i, hbad, _⟩ := offends_readOn arguments start hread
    exact absurd hbad (hsound i error)

theorem read_eq_error_iff (arguments : List String) (start : Nat) (error : FlagError) :
    read arguments start = .error error ↔ ∃ i, Offends arguments start i error ∧
      ∀ j error', Offends arguments start j error' → i ≤ j := by
  refine ⟨offends_readOn arguments start, fun h => ?_⟩
  obtain ⟨i, hbad, hfirst⟩ := h
  cases hread : read arguments start with
  | ok values => exact absurd hbad (((read_eq_ok_iff _ _ _).mp hread).1 i error)
  | error error' =>
    obtain ⟨j, hbad', hfirst'⟩ := offends_readOn arguments start hread
    have hij : i = j := Nat.le_antisymm (hfirst j error' hbad') (hfirst' i error hbad)
    subst hij
    rw [hbad.unique hbad']

/-- Arguments before the start may be left out too, if the start moves with those that are kept. -/
theorem read_kept (arguments : List String) (start : Nat) (keep : Nat → Bool)
    (h : ∀ i, keep i = false →
      i < start ∨ (FlagPosition arguments start i ∧ flagAt? arguments i = none)) :
    read (kept keep 0 arguments) ((List.range start).countP keep) = read arguments start := by
  rw [read, List.range_eq_range', drop_kept, Nat.zero_add]
  refine readOn_kept arguments keep start (fun j hj hout => ?_) {}
  rcases h j hout with hbefore | hpassed
  · omega
  · exact hpassed

/-- **Reading the flags of any arguments, said by positions.** The positions are reached from the
    start on, by two past a flag that has a value and by one past anything else, and they end with
    the arguments. Reading succeeds exactly if no flag at one of them is the last argument and each
    port flag there has a port after it, and then each field shows the value after the last position
    that holds its flag, or nothing if there is none. Else the error is that of the first position
    at fault. The value of a flag is never read as a flag, and the arguments before the start and
    those that are passed over may be left out, each or any of them, with the start moved to where
    the arguments after it begin. -/
theorem read_by_positions (arguments : List String) (start : Nat) :
    (∀ argument flag,
      Flag.ofArgument? argument = some flag ↔ (argument, flag) ∈ Flag.spellings) ∧
    (∀ i, FlagPosition arguments start i → start ≤ i ∧ i ≤ max start arguments.length) ∧
    (arguments.length ≤ start → read arguments start = .ok {}) ∧
    ((∃ values, read arguments start = .ok values) ↔
      (∀ i flag, HoldsFlag arguments start i flag → i + 1 ≠ arguments.length) ∧
      ∀ i text, HoldsFlag arguments start i .apiPort → arguments[i + 1]? = some text →
        ∃ port, IsPort text port) ∧
    (∀ values, read arguments start = .ok values → values.Shows arguments start ∧
      ∀ values' : FlagValues, values'.Shows arguments start → values' = values) ∧
    (∀ error, read arguments start = .error error ↔ ∃ i, Offends arguments start i error ∧
      ∀ j error', Offends arguments start j error' → i ≤ j) ∧
    (∀ i flag value, HoldsFlag arguments start i flag → arguments[i + 1]? = some value →
      ¬ FlagPosition arguments start (i + 1)) ∧
    ∀ keep : Nat → Bool,
      (∀ i, keep i = false →
        i < start ∨ (FlagPosition arguments start i ∧ flagAt? arguments i = none)) →
      read (kept keep 0 arguments) ((List.range start).countP keep) = read arguments start := by
  refine ⟨fun _ _ => Flag.ofArgument?_eq_some_iff, fun i hi => ⟨hi.start_le, hi.le_length⟩,
    ?_, ?_, ?_, read_eq_error_iff arguments start,
    fun i flag value hflag hvalue => hflag.not_flagPosition_value hvalue,
    read_kept arguments start⟩
  · intro hend
    rw [read, List.drop_eq_nil_of_le hend, readOn]
  · rw [← not_offends_iff]
    constructor
    · intro h
      obtain ⟨values, hread⟩ := h
      exact ((read_eq_ok_iff _ _ _).mp hread).1
    · intro hsound
      cases hread : read arguments start with
      | ok values => exact ⟨values, rfl⟩
      | error error =>
        obtain ⟨i, hbad, _⟩ := (read_eq_error_iff _ _ _).mp hread
        exact absurd hbad (hsound i error)
  · intro values hread
    have hshows := ((read_eq_ok_iff _ _ _).mp hread).2
    exact ⟨hshows, fun values' h => h.unique hshows⟩

/-- A value that looks like a flag, one flag in both spellings, and an argument that is passed
    over and left out together with those before the start. -/
theorem read_by_positions_flag_as_value :
    let arguments := ["keeper", "run", "--verbose", "--config", "--api-port", "-c", "a.yml",
      "--api-port", "8081"]
    HoldsFlag arguments 2 3 .config ∧ ¬ FlagPosition arguments 2 4 ∧
      read arguments 2 = .ok { configPath := some "a.yml", apiPort := some 8081 } ∧
      read (kept (3 ≤ ·) 0 arguments) 0 = read arguments 2 := by
  intro arguments
  obtain ⟨_, _, _, _, _, _, value_not_flag, left_out⟩ := read_by_positions arguments 2
  have hnext : nextPosition arguments 2 = 3 := by decide +kernel
  have hpassed : FlagPosition arguments 2 2 ∧ flagAt? arguments 2 = none :=
    ⟨.start, by decide +kernel⟩
  have hholds : HoldsFlag arguments 2 3 .config :=
    ⟨hnext ▸ hpassed.1.next (by decide), by decide +kernel⟩
  refine ⟨hholds, value_not_flag 3 .config "--api-port" hholds rfl, by decide +kernel,
    left_out (3 ≤ ·) fun i hi => ?_⟩
  have hle : i < 3 := by simpa using hi
  rcases Nat.lt_succ_iff_lt_or_eq.mp hle with hbefore | rfl
  · exact .inl hbefore
  · exact .inr hpassed

end FlagValues

end JobKeeper
