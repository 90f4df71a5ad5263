import PromptChart.Proofs.Json.Reader
import PromptChart.Proofs.Outcome
import PromptChart.Reasoning.Service

namespace PromptChart.Reasoning

/-- A text without anything but white space. -/
def IsBlankText (text : String) : Prop := ∀ c ∈ text.toList, Text.isBlank c = true

/-- A response can be read from a text. -/
def Holds (text : String) (response : ReasoningResponse) : Prop :=
  ∃ j, Json.read text = .ok j ∧ ReasoningResponse.check j = .valid response

inductive Verdict where
  | response (response : ReasoningResponse)
  | fault (fault : ReasoningFault)

inductive Deserves : Reply → Verdict → Prop
  | late {message} : Deserves (.timeout message) (.fault .timeout)
  | unreachable {message} : Deserves (.unreachable message) (.fault .generic)
  | inTrouble {status text} (h : status ∈ [500, 502, 503, 504]) :
      Deserves (.answered status text) (.fault .server)
  | refused {status text} (h : 400 ≤ status) (hother : status ∉ [500, 502, 503, 504]) :
    Deserves (.answered status text) (.fault .generic)
  | blank {status text} (h : status < 400) (htext : IsBlankText text) :
    Deserves (.answered status text) (.fault .timeout)
  | malformed {status text} (h : status < 400) (hsolid : ¬ IsBlankText text)
      (hnone : ∀ r, ¬ Holds text r) :
    Deserves (.answered status text) (.fault .malformed)
  | answered {status text r} (h : status < 400) (htext : Holds text r) :
      Deserves (.answered status text) (.response r)

/-- The result of a call is what it came to; what a fault says besides is left open. -/
def Verdict.IsOf (result : Except Failure ReasoningResponse) : Verdict → Prop
  | .response r => result = .ok r
  | .fault f => ∃ detail, result = .error (.reasoning f detail)

variable {text : String} {status : Int} {reply : Reply}
  {result : Except Failure ReasoningResponse} {r : ReasoningResponse} {v w : Verdict}

theorem Verdict.IsOf.unique (hv : v.IsOf result) (hw : w.IsOf result) : v = w := by
  cases v with
  | response r =>
    obtain rfl : result = .ok r := hv
    cases w with
    | response s =>
      cases (hw : Except.ok r = .ok s)
      rfl
    | fault fault =>
      obtain ⟨_, ⟨⟩⟩ := hw
  | fault fault =>
    obtain ⟨detail, rfl⟩ := hv
    cases w with
    | response s => cases (hw : Except.error _ = .ok s)
    | fault fault' =>
      obtain ⟨_, ⟨⟩⟩ := hw
      rfl

theorem not_holds_of_isBlankText (h : IsBlankText text) : ¬ Holds text r := by
  rintro ⟨j, hj, -⟩
  obtain ⟨e, he⟩ := Json.read_of_isBlank (List.all_eq_true.2 h)
  cases hj.symm.trans he

theorem readBody_of_isBlankText (h : IsBlankText text) :
    (Verdict.fault .timeout).IsOf (readBody text) :=
  ⟨_, if_pos (List.all_eq_true.2 h)⟩

theorem readBody_of_holds (h : Holds text r) : readBody text = .ok r := by
  have hsolid : ¬ IsBlankText text := fun hblank => not_holds_of_isBlankText hblank h
  obtain ⟨j, hread, hcheck⟩ := h
  rw [readBody, if_neg (mt List.all_eq_true.1 hsolid), hread]
  simp only [hcheck]

theorem readBody_of_not_holds (hsolid : ¬ IsBlankText text) (h : ∀ r, ¬ Holds text r) :
    (Verdict.fault .malformed).IsOf (readBody text) := by
  rw [readBody, if_neg (mt List.all_eq_true.1 hsolid)]
  cases hread : Json.read text with
  | error e => exact ⟨_, rfl⟩
  | ok j =>
    dsimp only
    cases hcheck : ReasoningResponse.check j with
    | valid r => exact absurd ⟨j, hread, hcheck⟩ (h r)
    | invalid issues => exact ⟨_, rfl⟩

theorem contains_serverStatuses :
    serverStatuses.contains status = true ↔ status ∈ [500, 502, 503, 504] :=
  List.contains_iff_mem

theorem readReply_of_lt (h : status < 400) :
    readReply (.answered status text) = readBody text := by
  have hother : ¬ serverStatuses.contains status = true := by
    rw [contains_serverStatuses]
    simp only [List.mem_cons, List.not_mem_nil, or_false]
    omega
  rw [readReply, if_neg hother, if_neg (Int.not_le.2 h)]

theorem Deserves.isOf (h : Deserves reply v) : v.IsOf (readReply reply) := by
  cases h with
  | late => exact ⟨_, rfl⟩
  | unreachable => exact ⟨_, rfl⟩
  | inTrouble h => exact ⟨_, if_pos (contains_serverStatuses.2 h)⟩
  | refused h hother =>
    rw [readReply, if_neg (mt contains_serverStatuses.1 hother), if_pos h]
    exact ⟨_, rfl⟩
  | blank h htext =>
    rw [readReply_of_lt h]
    exact readBody_of_isBlankText htext
  | malformed h hsolid hnone =>
    rw [readReply_of_lt h]
    exact readBody_of_not_holds hsolid hnone
  | answered h htext =>
    rw [readReply_of_lt h]
    exact readBody_of_holds htext

theorem exists_deserves (reply : Reply) : ∃ v, Deserves reply v := by
  cases reply with
  | timeout message => exact ⟨_, .late⟩
  | unreachable message => exact ⟨_, .unreachable⟩
  | answered status text =>
    rcases Int.lt_or_le status 400 with hlow | hhigh
    · by_cases hblank : IsBlankText text
      · exact ⟨_, .blank hlow hblank⟩
      · by_cases hholds : ∃ r, Holds text r
        · obtain ⟨r, hr⟩ := hholds
          exact ⟨_, .answered hlow hr⟩
        · exact ⟨_, .malformed hlow hblank (not_exists.1 hholds)⟩
    · by_cases hserver : status ∈ [500, 502, 503, 504]
      · exact ⟨_, .inTrouble hserver⟩
      · exact ⟨_, .refused hhigh hserver⟩

theorem isOf_readReply_iff : v.IsOf (readReply reply) ↔ Deserves reply v := by
  constructor
  · intro hv
    obtain ⟨w, hw⟩ := exists_deserves reply
    rwa [hv.unique hw.isOf]
  · exact Deserves.isOf

/-- Where the service has an address, a request is sent to it once, and the call comes to what
the reply deserves and to nothing else: there always is such a verdict, and it is the only
one. -/
theorem call_verdict (settings : Settings) (name : Option String) (server : Server)
    (request : ReasoningRequest) (hprovider : provider settings name = .ok .http)
    (hurl : settings.serviceUrl.isEmpty = false) :
    (call settings name server request).1 = [post settings request] ∧
      (∃ v : Verdict, v.IsOf (call settings name server request).2) ∧
      ∀ v : Verdict, v.IsOf (call settings name server request).2 ↔
        Deserves (server (post settings request)) v := by
  have hcall : call settings name server request =
      ([post settings request], readReply (server (post settings request))) := by
    simp only [call, hprovider, hurl, Bool.false_eq_true, ↓reduceIte]
  obtain ⟨v, hv⟩ := exists_deserves (server (post settings request))
  rw [hcall]
  exact ⟨rfl, ⟨v, hv.isOf⟩, fun v => isOf_readReply_iff⟩

theorem call_verdict_blank :
    let settings :=
      { Settings.usual with serviceUrl := "https://demo.supabase.co", reasoningProvider :=
      "HTTP" }
    let server : Server := fun _ => .answered 204 " \u2003\n"
    let request : ReasoningRequest := ⟨"hello", "0", none, ReasoningRequest.usualPreferences⟩
    provider settings none = .ok .http ∧ settings.serviceUrl.isEmpty = false ∧
      (call settings none server request).1.length = 1 ∧
      (Verdict.fault .timeout).IsOf (call settings none server request).2 := by
  intro settings server request
  have hprovider : provider settings none = .ok .http := by decide +kernel
  have hurl : settings.serviceUrl.isEmpty = false := by decide +kernel
  have hblank : IsBlankText " \u2003\n" := by
    unfold IsBlankText
    decide +kernel
  obtain ⟨hsent, -, hverdict⟩ := call_verdict settings none server request hprovider hurl
  exact ⟨hprovider, hurl, congrArg List.length hsent,
    (hverdict _).2 (.blank (by decide) hblank)⟩

end PromptChart.Reasoning
