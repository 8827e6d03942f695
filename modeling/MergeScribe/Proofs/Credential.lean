import MergeScribe.Credential
import MergeScribe.Proofs.Text.Trim
import MergeScribe.System.World

/-!
# Where tokens come from

The general variables hold tokens for github.com, so what they hold must not reach another host. On
any machine the token for a host is decided by what the sources for that host have, and the general
variables are among them for github.com alone. Main statement: a machine that differs in the general
variables gives every other host the same token or the same error, and a token is what the first
source has that is set and not blank (`Credential.token_confined`).
-/

namespace MergeScribe

open Text

namespace Credential

open Program

variable {σ : Type} {respond : Responder System σ} {s : σ} {environment environment' : Environment}
  {answer : List Text → Option HelperOutput}

/-! ## 1. Machines -/

/-- The machine has the variables of an environment, and its helper answers as given. Reading a
variable changes nothing. -/
structure Offers (respond : Responder System σ) (s : σ) (environment : Environment)
    (answer : List Text → Option HelperOutput) : Prop where
  value : ∀ name, respond (.getVariable name) s = (environment.valueOf name, s)
  helper : ∀ arguments, (respond (.runHelper arguments) s).1 = answer arguments

theorem offers_world (w : World) : Offers World.respond w w.environment fun _ => w.helper :=
  ⟨fun _ => rfl, fun _ => rfl⟩

/-- The environments are the same but for the variables of some names. -/
def SameBut (names : List Text) (environment environment' : Environment) : Prop :=
  environment.filter (fun entry => entry.1 ∉ names) =
    environment'.filter fun entry => entry.1 ∉ names

instance (names : List Text) (environment environment' : Environment) :
    Decidable (SameBut names environment environment') :=
  inferInstanceAs (Decidable (_ = _))

/-! ## 2. Variables -/

/-- What is set, if it is not blank. -/
def unlessBlank (value : Option Text) : Option Text :=
  value.filter fun t => !isBlank t

theorem unlessBlank_eq_some_iff {value : Option Text} {t : Text} :
    unlessBlank value = some t ↔ value = some t ∧ isBlank t = false := by
  simp [unlessBlank, Option.filter_eq_some_iff]

theorem unlessBlank_eq_none_iff {value : Option Text} :
    unlessBlank value = none ↔ ∀ t ∈ value, isBlank t = true := by
  simp [unlessBlank]

theorem firstVariable_cons (name : Text) (more : List Text) : firstVariable (name :: more) =
    .ask (.getVariable name) fun value =>
      (unlessBlank value).elim (firstVariable more) fun found => .done (some found) := by
  refine congrArg (Program.ask _) (funext fun (value : Option Text) => ?_)
  unfold unlessBlank
  dsimp only [Program.bind]
  cases Option.filter (fun t => !isBlank t) value with
  | none => rfl
  | some found => rfl

/-- **Variables are asked for in order, up to the first that is not blank.** -/
theorem run_firstVariable (h : Offers respond s environment answer) : (names : List Text) →
    (firstVariable names).run respond s =
      ((names.map environment.valueOf).findSome? unlessBlank, s)
  | [] => rfl
  | name :: more => by
      have hask : (firstVariable (name :: more)).run respond s =
          ((unlessBlank (respond (.getVariable name) s).1).elim (firstVariable more)
            fun found => .done (some found)).run respond (respond (.getVariable name) s).2 := by
        rw [firstVariable_cons]
        rfl
      rw [hask, h.value, List.map_cons, List.findSome?_cons]
      cases unlessBlank (environment.valueOf name) with
      | some value => rfl
      | none => exact run_firstVariable h more

/-! ## 3. The helper -/

/-- What the helper's answer means. -/
def heard (host : Text) : Option HelperOutput → Except Text Text
  | none => .error (missing host)
  | some output =>
    if output.success then
      match Text.ofBytes? output.output with
      | none => .error "Invalid UTF-8 in gh auth token output"
      | some said => if isBlank said then .error (missing host) else .ok (trim said)
    else .error (missing host)

theorem askHelper_eq (host : Text) : askHelper host =
    if '\x00' ∈ host then .done (.error (missing host))
    else .ask (.runHelper (helperArguments host)) fun answer => .done (heard host answer) := by
  unfold askHelper
  by_cases hnull : '\x00' ∈ host
  · rw [if_pos hnull, if_pos (List.contains_iff_mem.mpr hnull)]
    rfl
  · rw [if_neg hnull, if_neg fun e => hnull (List.contains_iff_mem.mp e)]
    refine congrArg (Program.ask _) (funext fun answer => ?_)
    cases answer with
    | none => rfl
    | some output =>
        change (if output.success then
            match Text.ofBytes? output.output with
            | none => .done (.error "Invalid UTF-8 in gh auth token output")
            | some said => if isBlank said then .done (.error (missing host)) else .done (.ok (trim said))
          else .done (.error (missing host))) = Program.done (heard host (some output))
        rw [heard, apply_ite Program.done]
        refine if_congr Iff.rfl ?_ rfl
        cases Text.ofBytes? output.output with
        | none => rfl
        | some said => exact (apply_ite Program.done ..).symm

/-- What the helper has for a host: what it printed, trimmed, if it could be asked about the host and
reported success. -/
def helperToken (host : Text) (answer : Option HelperOutput) : Option Text :=
  if '\x00' ∈ host then none
  else answer.bind fun output =>
    if output.success then (Text.ofBytes? output.output).map trim else none

theorem heard_eq_ok_iff {host t : Text} {answer : Option HelperOutput} (h : '\x00' ∉ host) :
    heard host answer = .ok t ↔ unlessBlank (helperToken host answer) = some t := by
  rw [helperToken, if_neg h, unlessBlank_eq_some_iff]
  cases answer with
  | none => simp [heard]
  | some output =>
      rw [heard, Option.bind_some]
      by_cases hsuccess : output.success = true
      · rw [if_pos hsuccess, if_pos hsuccess]
        cases Text.ofBytes? output.output with
        | none => simp
        | some said =>
            dsimp only
            rw [Option.map_some, Option.some.injEq]
            by_cases hblank : isBlank said = true
            · rw [if_pos hblank]
              refine iff_of_false (fun e => nomatch e) fun ⟨e, hnot⟩ => ?_
              rw [← e, isBlank_trim, hblank] at hnot
              cases hnot
            · rw [if_neg hblank, Except.ok.injEq, iff_self_and]
              intro e
              rw [← e, isBlank_trim]
              exact Bool.eq_false_iff.mpr hblank
      · rw [if_neg hsuccess, if_neg hsuccess]
        simp

/-! ## 4. The token for a host -/

/-- What comes of looking for a token, given the environment and the answer of the helper. -/
def outcome (environment : Environment) (host : Text) (answer : Option HelperOutput) :
    Except Text Text :=
  match ((variablesOf host).map environment.valueOf).findSome? unlessBlank with
  | some value => .ok value
  | none => if '\x00' ∈ host then .error (missing host) else heard host answer

/-- **The environment and the helper's answer about the host decide.** -/
theorem run_token (h : Offers respond s environment answer) (host : Option Text) :
    ((token host).run respond s).1 = outcome environment (host.getD defaultHost)
      (answer (helperArguments (host.getD defaultHost))) := by
  have hbind : (token host).run respond s =
      ((firstVariable (variablesOf (host.getD defaultHost))).bind fun found =>
        match found with
        | some value => .done (.ok value)
        | none => askHelper (host.getD defaultHost)).run respond s := rfl
  rw [hbind, run_bind, run_firstVariable h, outcome, ← h.helper]
  cases ((variablesOf (host.getD defaultHost)).map environment.valueOf).findSome? unlessBlank with
  | some value => rfl
  | none =>
      dsimp only
      rw [askHelper_eq]
      split
      · rfl
      · rfl

/-! ## 5. Sources -/

/-- What the sources of a token for a host have, in order. -/
def sources (environment : Environment) (host : Text) (answer : Option HelperOutput) :
    List (Option Text) :=
  environment.valueOf "GITHUB_ACCESS_TOKEN" :: environment.valueOf (hostVariable host) ::
    ((if host = "github.com".toList then
        [environment.valueOf "GITHUB_TOKEN", environment.valueOf "GH_TOKEN"] else []) ++
      [helperToken host answer])

/-- The token is the first one of the values that is set and not blank. -/
def FirstSet (values : List (Option Text)) (token : Text) : Prop :=
  isBlank token = false ∧ ∃ before after, values = before ++ some token :: after ∧
    ∀ value ∈ before, ∀ t ∈ value, isBlank t = true

theorem findSome?_unlessBlank_eq_some_iff {values : List (Option Text)} {t : Text} :
    values.findSome? unlessBlank = some t ↔ FirstSet values t := by
  rw [List.findSome?_eq_some_iff]
  constructor
  · intro ⟨before, value, after, hvalues, hvalue, hbefore⟩
    obtain ⟨rfl, ht⟩ := unlessBlank_eq_some_iff.mp hvalue
    exact ⟨ht, before, after, hvalues, fun u hu => unlessBlank_eq_none_iff.mp (hbefore u hu)⟩
  · intro ⟨ht, before, after, hvalues, hbefore⟩
    refine ⟨before, some t, after, hvalues, unlessBlank_eq_some_iff.mpr ⟨rfl, ht⟩, fun u hu => ?_⟩
    exact unlessBlank_eq_none_iff.mpr (hbefore u hu)

theorem sources_eq (environment : Environment) (host : Text) (answer : Option HelperOutput) :
    sources environment host answer =
      (variablesOf host).map environment.valueOf ++ [helperToken host answer] := by
  unfold sources variablesOf defaultHost
  split
  · rfl
  · rfl

/-- **A token is what the first source has that is set and not blank.** -/
theorem outcome_eq_ok_iff {environment : Environment} {host t : Text} {answer : Option HelperOutput} :
    outcome environment host answer = .ok t ↔ FirstSet (sources environment host answer) t := by
  rw [← findSome?_unlessBlank_eq_some_iff, sources_eq, List.findSome?_append, outcome]
  cases ((variablesOf host).map environment.valueOf).findSome? unlessBlank with
  | some value => simp only [Except.ok.injEq, Option.some_or, Option.some.injEq]
  | none =>
      have hlast : [helperToken host answer].findSome? unlessBlank =
          unlessBlank (helperToken host answer) := by
        simp
      rw [Option.none_or, hlast]
      dsimp only
      by_cases hnull : '\x00' ∈ host
      · simp [helperToken, hnull, unlessBlank]
      · rw [if_neg hnull]
        exact heard_eq_ok_iff hnull

/-! ## 6. The general variables -/

/-- **No other host has a general variable for its own**, nor a name that reaches into the value of
one. -/
theorem after?_eq_none_of_mem_variablesOf {host : Text} (hhost : host ≠ defaultHost) :
    ∀ name ∈ variablesOf host, ∀ other ∈ generalVariables, ∀ value : Text,
      after? (name ++ "=") (other ++ '=' :: value) = none := by
  have hvariables : variablesOf host = [ownVariable, hostVariable host] := by
    rw [variablesOf, if_neg hhost]
  intro name hname other hother value
  simp only [hvariables, generalVariables, List.mem_cons, List.not_mem_nil, or_false] at hname hother
  rcases hname with rfl | rfl <;> rcases hother with rfl | rfl <;> rfl

/-- A variable that is looked for past others has the same value without them. -/
theorem valueOf_filter {names : List Text} {name : Text}
    (h : ∀ other ∈ names, ∀ value : Text, after? (name ++ "=") (other ++ '=' :: value) = none)
    (environment : Environment) :
    Environment.valueOf name (environment.filter fun entry => entry.1 ∉ names) =
      environment.valueOf name := by
  induction environment with
  | nil => rfl
  | cons entry more ih =>
      obtain ⟨key, value⟩ := entry
      by_cases hkey : key ∈ names
      · rw [List.filter_cons_of_neg (by simpa using hkey), ih]
        simp only [Environment.valueOf, List.findSome?_cons, h key hkey value]
      · rw [List.filter_cons_of_pos (by simpa using hkey)]
        unfold Environment.valueOf at ih ⊢
        rw [List.findSome?_cons, List.findSome?_cons, ih]

/-- **For another host the general variables do not count.** -/
theorem outcome_eq_of_sameBut {host : Text} (hhost : host ≠ defaultHost)
    (h : SameBut generalVariables environment environment') (answer : Option HelperOutput) :
    outcome environment host answer = outcome environment' host answer := by
  have hvalues : (variablesOf host).map environment.valueOf =
      (variablesOf host).map environment'.valueOf := by
    refine List.map_congr_left fun name hname => ?_
    have hreach := after?_eq_none_of_mem_variablesOf hhost name hname
    rw [← valueOf_filter hreach environment, ← valueOf_filter hreach environment', h]
  rw [outcome, outcome, hvalues]

/-! ## 7. Machines that differ in the general variables -/

/-- **The general variables are for github.com alone.** Two machines that are the same but for these
variables, and whose helpers answer alike about a host, give a host other than github.com the same
token or the same error. And on any machine, a token for a host is not blank, and it is what the
first source has that is set and not blank: the bot's own variable, the variable of the host, for
github.com the two general variables, and the helper; without such a source there is none. -/
theorem token_confined {σ τ : Type} {respond : Responder System σ} {respond' : Responder System τ}
    {s : σ} {s' : τ} {environment environment' : Environment}
    {answer answer' : List Text → Option HelperOutput}
    (machine : Offers respond s environment answer)
    (machine' : Offers respond' s' environment' answer') :
    (∀ host, host ≠ "github.com".toList →
      SameBut ["GITHUB_TOKEN", "GH_TOKEN"] environment environment' →
      answer (helperArguments host) = answer' (helperArguments host) →
      ((token (some host)).run respond s).1 = ((token (some host)).run respond' s').1) ∧
    ∀ (host : Option Text) (t : Text), ((token host).run respond s).1 = .ok t ↔
      FirstSet (sources environment (host.getD "github.com")
        (answer (helperArguments (host.getD "github.com")))) t := by
  refine ⟨fun host hhost hsame hhelper => ?_, fun host t => ?_⟩
  · rw [run_token machine, run_token machine', Option.getD_some, hhelper]
    exact outcome_eq_of_sameBut hhost hsame _
  · rw [run_token machine]
    exact outcome_eq_ok_iff

/-- The bot's own variable is blank and the general ones differ: an Enterprise host gets what the
helper says, and github.com the first of the general tokens. -/
theorem token_confined_enterprise :
    let machine (general : Text) : World :=
      ⟨[], [("GITHUB_ACCESS_TOKEN", " "), ("GITHUB_TOKEN", general), ("GH_TOKEN", general)], [],
        some ⟨true, Text.toBytes "helped\n"⟩, [], []⟩
    ((token (some "ghe.example.com")).run World.respond (machine "one")).1 =
        ((token (some "ghe.example.com")).run World.respond (machine "other")).1 ∧
      ((token (some "ghe.example.com")).run World.respond (machine "one")).1 = .ok "helped".toList ∧
      ((token none).run World.respond (machine "one")).1 = .ok "one".toList := by
  intro machine
  obtain ⟨hconfined, hsource⟩ :=
    token_confined (offers_world (machine "one")) (offers_world (machine "other"))
  refine ⟨hconfined "ghe.example.com" (by decide) (by decide) rfl, (hsource _ _).mpr ?_,
    (hsource _ _).mpr ?_⟩
  · exact ⟨by decide, [some " ".toList, none], [], by decide +kernel, by decide⟩
  · exact ⟨by decide, [some " ".toList, none], [some "one".toList, some "helped".toList],
      by decide +kernel, by decide⟩

end Credential

end MergeScribe
