import Fusebox.Admin.Interface
import Fusebox.Proofs.Text.ByteOrder

/-! Who gets in to the admin interface. A header value is compared with the key only if it can be
read as text, and for that it has to be visible ASCII. So a key of other letters is never presented:
headers can carry it, and no request gets in with it. Every other key admits just those requests
whose first authorization header presents it. -/
namespace Fusebox.Admin

/-- Characters that a header value may have to be read as text: those of ASCII that are visible,
the space and the tab. -/
def isPresentable (c : Char) : Bool := c == '\t' || (' ' ≤ c && c ≤ '~')

/-- Whether a key can be presented at all. -/
def Presentable (key : String) : Prop := ∀ c ∈ key.toList, isPresentable c = true

/-- Bytes that a header value may have at all. Control characters are left out, but for the tab. -/
def isCarried (byte : UInt8) : Bool := byte == 0x9 || (0x20 ≤ byte && byte != 0x7F)

/-- The answer to a request that may not pass. -/
def refusal (request : Request) : Response := { status := 401, allow := allowed request }

/-- A request is turned away. The breakers are left alone, and the log is told the path. -/
def turnAway (registry : Registry) (request : Request) : Step Effect Registry Response :=
  ⟨registry, [.event (.unauthenticated (pathOf request.uri))], .ok (refusal request)⟩

/-- A request is let in, and gets what it asks for. -/
def letIn (registry : Registry) (request : Request) (reading : Reading) :
    Step Effect Registry Response :=
  (serve registry request reading).map fun response => { response with allow := allowed request }

/-- A request gets in, whatever the breakers are like. -/
def Reaches (key : String) (request : Request) : Prop :=
  ∀ registry reading, respond registry key request reading = letIn registry request reading

variable {key : String} {request : Request}

/-- There is no third way. -/
theorem respond_eq (registry : Registry) (key : String) (request : Request) (reading : Reading) :
    respond registry key request reading =
      if authorizes key request.authorization then letIn registry request reading
      else turnAway registry request := by
  simp only [respond]
  split <;> rfl

theorem respond_outside (outside : authorizes key request.authorization = false)
    (registry : Registry) (reading : Reading) :
    respond registry key request reading = turnAway registry request := by
  simp [respond_eq, outside]

/-- What is answered in another view is answered. -/
theorem answered_of_map {f : α → β} {step : Step ε σ α} {value : β}
    (answered : (step.map f).result = .ok value) :
    ∃ found, step.result = .ok found ∧ f found = value := by
  simp only [Step.map] at answered
  cases found : step.result with
  | error cause =>
    rw [found] at answered
    cases answered
  | ok inner =>
    rw [found] at answered
    exact ⟨inner, rfl, Except.ok.inj answered⟩

theorem document_status (tree : Tree) : (document tree).status ≠ 401 := by
  simp [document]

/-- No route asks for a key. -/
theorem show_status {route : Route} {registry : Registry} {reading : Reading} {response : Response}
    (answered : (show_ registry reading route).result = .ok response) : response.status ≠ 401 := by
  cases route with
  | status =>
    obtain ⟨names, -, rfl⟩ := answered_of_map answered
    exact document_status _
  | breakers =>
    obtain ⟨shown, -, rfl⟩ := answered_of_map answered
    exact document_status _
  | breaker segment =>
    simp only [show_] at answered
    split at answered
    · cases answered
      decide
    · split at answered
      · cases answered
        decide
      · obtain ⟨shown, -, rfl⟩ := answered_of_map answered
        exact document_status _

/-- Nor does anything else that a request gets once it is in. -/
theorem serve_status {registry : Registry} {reading : Reading} {response : Response}
    (answered : (serve registry request reading).result = .ok response) :
    response.status ≠ 401 := by
  simp only [serve] at answered
  split at answered
  · cases answered
    decide
  · split at answered
    · exact show_status answered
    · split at answered
      · obtain ⟨whole, shown, rfl⟩ := answered_of_map answered
        have status := show_status shown
        exact status
      · cases answered
        decide

/-- To be let in and to be turned away are never the same. -/
theorem letIn_ne_turnAway (registry : Registry) (request : Request) (reading : Reading) :
    letIn registry request reading ≠ turnAway registry request := by
  intro same
  have answered : (letIn registry request reading).result = .ok (refusal request) := by
    rw [same]
    rfl
  obtain ⟨response, served, told⟩ := answered_of_map answered
  exact serve_status served (congrArg Response.status told)

theorem reaches_iff : Reaches key request ↔ authorizes key request.authorization = true := by
  constructor
  · intro reaches
    by_contra outside
    have told := reaches .empty ⟨none, none⟩
    rw [respond_outside (by simpa using outside)] at told
    exact letIn_ne_turnAway _ _ _ told.symm
  · intro passes registry reading
    rw [respond_eq, if_pos passes]

theorem isVisible_iff (byte : UInt8) :
    isVisible byte = true ↔ byte.toNat = 0x9 ∨ 0x20 ≤ byte.toNat ∧ byte.toNat < 0x7F := by
  simp only [isVisible, Bool.or_eq_true, Bool.and_eq_true, beq_iff_eq, decide_eq_true_eq,
    ← UInt8.toNat_inj, UInt8.le_iff_toNat_le, UInt8.lt_iff_toNat_lt]
  rfl

theorem isPresentable_iff (c : Char) :
    isPresentable c = true ↔ c.val.toNat = 0x9 ∨ 0x20 ≤ c.val.toNat ∧ c.val.toNat < 0x7F := by
  simp only [isPresentable, Bool.or_eq_true, Bool.and_eq_true, beq_iff_eq, decide_eq_true_eq,
    Char.ext_iff, Char.le_def, ← UInt32.toNat_inj, UInt32.le_iff_toNat_le]
  exact or_congr_right (and_congr_right fun _ => Nat.lt_succ_iff.symm)

/-- The bytes of a character can be read as text if they are one byte of visible ASCII. -/
theorem utf8EncodeChar_visible (c : Char) :
    (String.utf8EncodeChar c).all isVisible = isPresentable c := by
  rw [Bool.eq_iff_iff, isPresentable_iff]
  simp only [String.utf8EncodeChar]
  generalize c.val.toNat = code
  split_ifs <;>
    simp only [List.all_cons, List.all_nil, Bool.and_true, Bool.and_eq_true, isVisible_iff,
      UInt8.toNat_ofNat']
  all_goals omega

theorem credentials_visible (key : String) :
    (credentials key).all isVisible = true ↔ Presentable key := by
  have bytes : credentials key =
      ("Bearer ".toList ++ key.toList).flatMap String.utf8EncodeChar := by
    rw [← String.toList_append]
    exact Text.bytesOf_eq ("Bearer " ++ key)
  have word : "Bearer ".toList.all isPresentable = true := by decide
  simp only [bytes, List.all_flatMap, utf8EncodeChar_visible, List.all_append, word, Bool.true_and,
    List.all_eq_true, Presentable]

/-- A key that is asked for admits those who present it, if it can be presented. -/
theorem authorizes_iff (key : String) (authorization : List (List UInt8)) :
    authorizes key authorization = true ↔
      key = "" ∨ Presentable key ∧ authorization.head? = some (credentials key) := by
  simp only [authorizes, Bool.or_eq_true, String.isEmpty_iff]
  refine or_congr_right ?_
  cases authorization with
  | nil => simp
  | cons value rest =>
    simp only [Bool.and_eq_true, beq_iff_eq, List.head?_cons, Option.some.injEq]
    constructor
    · rintro ⟨visible, rfl⟩
      exact ⟨(credentials_visible key).mp visible, rfl⟩
    · rintro ⟨presentable, rfl⟩
      exact ⟨(credentials_visible key).mpr presentable, rfl⟩

/-- Only a key that can be presented opens, and it opens to those who present it; everybody else is
turned away. So the key alone decides for a request just where it can be presented. -/
theorem key_opens_iff_presentable (key : String) :
    (∀ request, Reaches key request ↔
      key = "" ∨ Presentable key ∧ request.authorization.head? = some (credentials key)) ∧
    (∀ request, ¬Reaches key request → ∀ registry reading,
      respond registry key request reading = turnAway registry request) ∧
    ((∀ request, Reaches key request ↔
      key = "" ∨ request.authorization.head? = some (credentials key)) ↔ Presentable key) := by
  have opens (request : Request) : Reaches key request ↔
      key = "" ∨ Presentable key ∧ request.authorization.head? = some (credentials key) :=
    reaches_iff.trans (authorizes_iff key request.authorization)
  refine ⟨opens, ?_, ?_, ?_⟩
  · intro request outside registry reading
    apply respond_outside
    rwa [reaches_iff, Bool.not_eq_true] at outside
  · intro exact_
    by_cases unlocked : key = ""
    · subst unlocked
      intro c member
      cases member
    · -- Whoever presents the key would have to get in.
      have presents := (exact_ ⟨"GET", "/admin/status", [credentials key]⟩).mpr (.inr rfl)
      rcases (opens _).mp presents with empty | ⟨presentable, -⟩
      · exact absurd empty unlocked
      · exact presentable
  · intro presentable request
    rw [opens, and_iff_right presentable]

/-- A letter with an accent is enough. The header can carry the key and does present it. -/
theorem accented_key_opens_to_nobody :
    let key := "sécret"
    let request : Request := ⟨"GET", "/admin/status", [credentials key]⟩
    (credentials key).all isCarried = true ∧
      request.authorization.head? = some (credentials key) ∧ ¬Reaches key request := by
  intro key request
  refine ⟨by decide, rfl, ?_⟩
  rw [reaches_iff]
  decide

end Fusebox.Admin
