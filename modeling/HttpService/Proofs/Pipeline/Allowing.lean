import HttpService.Proofs.Concurrency.Yielding
import HttpService.Proofs.Pipeline.Acceptance
import HttpService.Proofs.Pipeline.Guarded
import HttpService.Proofs.Pipeline.Lateness
import HttpService.Proofs.Responses.Erring
import HttpService.Proofs.Wire.MethodToken

/-!
Contract: the methods that a route lists, and those that it answers.

Owns:
- the methods in the value of an `Allow` header, as a client reads them;
- routes whose handlers refuse no method of their own accord, outcomes whose fault is not the
  server's, and responses that have a method as a list has it;
- **the end of the chain refuses the methods that a route does not list**, and no others, and sends
  the list to those that are refused or ask for it.

Does not own: how an outcome is sent, and what handlers answer.
-/

namespace HttpService

variable {World : Type}

/-! ## The list and how it is read -/

/-- The items of a list with commas between them, without the white space around each. -/
def commaSeparated (value : String) : List (List Char) :=
  (value.toList.splitOn ',').map Text.trim

/-- Spaces behind the commas begin the pieces there. -/
theorem intercalate_comma_space (piece : List Char) (rest : List (List Char)) :
    [',', ' '].intercalate (piece :: rest) = [','].intercalate (piece :: rest.map (' ' :: ·)) := by
  induction rest generalizing piece with
  | nil => simp
  | cons next rest inductionHypothesis =>
      have moved : [','].intercalate ((' ' :: next) :: rest.map (' ' :: ·)) =
          ' ' :: [','].intercalate (next :: rest.map (' ' :: ·)) := by
        cases rest with
        | nil => simp
        | cons => simp [List.intercalate_cons_cons]
      rw [List.intercalate_cons_cons, inductionHypothesis, List.map_cons,
        List.intercalate_cons_cons, moved]
      simp

theorem trim_token (method : Method) : Text.trim method.token.toList = method.token.toList := by
  cases method <;> decide

theorem comma_not_mem_token (method : Method) : ',' ∉ method.token.toList := by
  cases method <;> decide

theorem toList_allowText (methods : List Method) :
    (allowText methods).toList = [',', ' '].intercalate (methods.map fun method =>
      method.token.toList) := by
  unfold allowText
  rw [String.toList_intercalate, List.map_map]
  rfl

/-- The list of some methods is read as these methods. -/
theorem commaSeparated_allowText {methods : List Method} (filled : methods ≠ []) :
    commaSeparated (allowText methods) = methods.map fun method => method.token.toList := by
  obtain ⟨first, rest, rfl⟩ := List.exists_cons_of_ne_nil filled
  have apart : ∀ piece ∈ first.token.toList ::
      (rest.map fun method => method.token.toList).map (' ' :: ·), ',' ∉ piece := by
    simp [comma_not_mem_token]
  unfold commaSeparated
  rw [toList_allowText, List.map_cons, intercalate_comma_space,
    List.splitOn_intercalate ',' apart (List.cons_ne_nil _ _), List.map_cons, trim_token,
    List.map_map, List.map_map]
  congr 1
  apply List.map_congr_left
  intro method _
  exact (Text.trim_cons_of_blank (by decide) _).trans (trim_token method)

theorem sanitize_allowText (methods : List Method) :
    sanitize (allowText methods) = allowText methods := by
  apply Headers.sanitize_eq_self
  intro c member
  have token : ∀ method : Method, ∀ c ∈ method.token.toList, isFieldChar c = true := by
    intro method
    apply List.all_eq_true.mp
    cases method <;> decide
  rw [toList_allowText] at member
  cases methods with
  | nil => cases member
  | cons first rest =>
      rw [List.map_cons, intercalate_comma_space] at member
      rcases Text.mem_intercalate member with rfl | ⟨piece, inside, held⟩
      · decide
      · rcases List.mem_cons.mp inside with rfl | later
        · exact token first c held
        · obtain ⟨_, found, rfl⟩ := List.mem_map.mp later
          obtain ⟨method, _, rfl⟩ := List.mem_map.mp found
          rcases List.mem_cons.mp held with rfl | behind
          · decide
          · exact token method c behind

namespace Endpoint

variable {endpoint : Endpoint World} {allowTrace : Bool}

theorem mem_allowedMethods_iff {method : Method} :
    method ∈ endpoint.allowedMethods allowTrace ↔
      (endpoint.handler? method).isSome = true ∨ method = .options ∨
        (method = .trace ∧ allowTrace = true) := by
  obtain ⟨get, post, put, delete, patch⟩ := endpoint
  unfold allowedMethods listed
  cases method <;> simp [handler?]

/-- A client that reads the list of a route finds the methods on it. -/
theorem token_mem_allow_iff {method : Method} :
    method.token.toList ∈ commaSeparated (endpoint.allow allowTrace) ↔
      method ∈ endpoint.allowedMethods allowTrace := by
  have filled : endpoint.allowedMethods allowTrace ≠ [] :=
    List.ne_nil_of_mem (mem_allowedMethods_iff.mpr (.inr (.inl rfl)))
  have injective : Function.Injective fun method : Method => method.token.toList := by
    intro first second same
    have tokens := congrArg Method.ofToken? (String.toList_inj.mp same)
    rwa [Method.ofToken?_token, Method.ofToken?_token, Option.some.injEq] at tokens
  unfold allow
  rw [commaSeparated_allowText filled]
  exact List.mem_map_of_injective injective

/-- The handlers neither fail nor panic, and none of them makes a response one that refuses a
method. Unless `rests`, they do not rest either. -/
def Steady (endpoint : Endpoint World) (rests : Bool) : Prop :=
  ∀ method handler, endpoint.handler? method = some handler →
    ∀ response request, response.status ≠ .methodNotAllowed →
      (handler response request).Yields rests fun ended =>
        ended.1 = .ok () ∧ ended.2.status ≠ .methodNotAllowed

end Endpoint

/-! ## What is sent of an outcome -/

/-- The response of an outcome when nothing maps its fault. -/
def Outcome.settled (outcome : Outcome World) : Response :=
  match outcome.verdict with
  | .ok () => outcome.response
  | .error fault => outcome.response.writeError fault.defaultError

/-- Its fault, if it has one, is an error of the client. -/
def Outcome.Blameless (outcome : Outcome World) : Prop :=
  ∀ fault, outcome.verdict = .error fault → fault.defaultError.status.isServerError = false

theorem Outcome.blameless_of_ok (response : Response) (request : Request) :
    (Outcome.mk (.ok () : Verdict World) response request).Blameless :=
  nofun

theorem Outcome.blameless_of_error {fault : Fault World}
    (other : fault.defaultError.status.isServerError = false) (response : Response)
    (request : Request) : (Outcome.mk (.error fault) response request).Blameless := by
  rintro _ ⟨⟩
  exact other

namespace Response

/-- A response to a method as a list of methods has it: it refuses the method if that is not on the
list, and if it refuses it, or is to tell the list, it carries the list and no other. -/
structure Tells (response : Response) (method : Method) (methods : List Method) : Prop where
  refused : response.status = .methodNotAllowed ↔ method ∉ methods
  listed : method = .options ∨ response.status = .methodNotAllowed →
    response.headers.valuesOf "Allow" = [allowText methods]

theorem status_stateLength (response : Response) :
    response.stateLength.status = response.status := by
  unfold stateLength
  split
  · rfl
  · rfl

theorem valuesOf_stateLength {name : String} (other : foldCase "Content-Length" ≠ foldCase name)
    (response : Response) :
    response.stateLength.headers.valuesOf name = response.headers.valuesOf name := by
  unfold stateLength
  split
  · rfl
  · rename_i unstated
    have absent : response.headers.contains (sanitize "Content-Length") = false := by
      rw [sanitize_contentLength]
      exact Bool.eq_false_iff.mpr unstated
    unfold Headers.valuesOf setHeader
    simp only
    rw [Headers.toList_set_of_absent absent, sanitize_contentLength, List.filter_append,
      List.map_append]
    simp [other]

theorem status_withoutHeadBody (left : Request) (response : Response) :
    (Pipeline.withoutHeadBody left response).status = response.status := by
  unfold Pipeline.withoutHeadBody
  split
  · exact status_stateLength response
  · rfl

/-- What is left of a response after HEAD tells the same. -/
theorem Tells.withoutHeadBody {response : Response} {method : Method} {methods : List Method}
    (tells : response.Tells method methods) (left : Request) :
    (Pipeline.withoutHeadBody left response).Tells method methods := by
  have values : (Pipeline.withoutHeadBody left response).headers.valuesOf "Allow" =
      response.headers.valuesOf "Allow" := by
    unfold Pipeline.withoutHeadBody
    split
    · exact valuesOf_stateLength (by decide) response
    · rfl
  constructor
  · rw [status_withoutHeadBody]
    exact tells.refused
  · rw [status_withoutHeadBody, values]
    exact tells.listed

end Response

namespace Terminal

variable {terminal : Terminal World} {endpoint : Endpoint World} {response : Response}
  {request : Request}

/-- A list that is sent is the only one, whatever the response has carried before. -/
theorem valuesOf_answerAllow (tidy : response.headers.Tidy) (methods : List Method) :
    (answerAllow response (allowText methods)).headers.valuesOf "Allow" = [allowText methods] := by
  have set := Headers.all?_set_self response.headers "Allow" (allowText methods)
  have name : sanitize "Allow" = "Allow" := by decide
  rw [name, sanitize_allowText] at set
  show (response.headers.set "Allow" (allowText methods)).valuesOf "Allow" = _
  rw [(tidy.set _ _).valuesOf_eq, set]
  rfl

theorem valuesOf_refused (tidy : response.headers.Tidy) (methods : List Method) :
    (response.writeError (.methodNotAllowed (allowText methods) : HttpError World)).headers.valuesOf
      "Allow" = [allowText methods] := by
  have brought : (HttpError.methodNotAllowed (allowText methods) : HttpError World).headers.Tidy :=
    Headers.tidy_empty.set _ _
  have set := Headers.all?_set_self .empty "Allow" (allowText methods)
  have name : sanitize "Allow" = "Allow" := by decide
  rw [name, sanitize_allowText] at set
  have known : (HttpError.methodNotAllowed (allowText methods) : HttpError World).headers.all?
      "Allow" = some [allowText methods] := set
  have carried := Response.all?_writeError_of_brought tidy brought (by decide)
    (show (HttpError.methodNotAllowed (allowText methods) : HttpError World).headers.contains
        "Allow" = true by
      unfold Headers.contains
      rw [known]
      rfl)
  have whole : (response.writeError
      (.methodNotAllowed (allowText methods) : HttpError World)).headers.Tidy := by
    rw [Response.headers_writeError]
    exact ((tidy.merge _).set _ _).set _ _
  rw [whole.valuesOf_eq, carried, known]
  rfl

/-- Without a route the end of a chain finds nothing, by whatever method it is asked. -/
theorem dispatch_unrouted (unserved : terminal.endpoint = none)
    (ordinary : request.target.isAsterisk = false) (response : Response) :
    (terminal.dispatch response request).Yields false fun outcome =>
      outcome.Blameless ∧ outcome.settled.status = .notFound := by
  unfold dispatch
  rw [ordinary, if_neg (by decide), unserved]
  exact ⟨Outcome.blameless_of_error rfl _ _, rfl⟩

/-- The check of the acceptable types finds no fault of the server. -/
theorem blameless_checkAcceptance (terminal : Terminal World) (request : Request) (left : Response) :
    (Outcome.mk (terminal.checkAcceptance left request) left request).Blameless := by
  unfold checkAcceptance
  split
  · split
    · exact Outcome.blameless_of_ok _ _
    · split
      · exact Outcome.blameless_of_ok _ _
      · exact Outcome.blameless_of_error rfl _ _
  · exact Outcome.blameless_of_ok _ _

/-- The check of the acceptable types refuses no method. -/
theorem settled_checkAcceptance (terminal : Terminal World) (request : Request) {left : Response}
    (accepting : left.status ≠ .methodNotAllowed) :
    (Outcome.mk (terminal.checkAcceptance left request) left request).settled.status ≠
      .methodNotAllowed := by
  unfold checkAcceptance
  split
  · split
    · exact accepting
    · split
      · exact accepting
      · exact Status.noConfusion
  · exact accepting

/-- With a route it refuses the methods that the route does not list, and no others, and finds no
fault of the server. It rests only where a handler does. -/
theorem dispatch_routed {rests : Bool} (served : terminal.endpoint = some endpoint)
    (ordinary : request.target.isAsterisk = false) (steady : endpoint.Steady rests)
    (tidy : response.headers.Tidy) (accepting : response.status ≠ .methodNotAllowed) :
    (terminal.dispatch response request).Yields
      ((endpoint.handler? request.method).isSome && rests) fun outcome =>
        outcome.Blameless ∧
          outcome.settled.Tells request.method (endpoint.allowedMethods terminal.allowTrace) := by
  have listing := @Endpoint.mem_allowedMethods_iff _ endpoint terminal.allowTrace request.method
  unfold dispatch
  rw [ordinary, if_neg (by decide), served]
  simp only
  by_cases asks : request.method = .options
  · rw [if_pos asks]
    have mentioned := listing.mpr (.inr (.inl asks))
    exact ⟨Outcome.blameless_of_ok _ _, iff_of_false Status.noConfusion (not_not_intro mentioned),
      fun _ => valuesOf_answerAllow tidy _⟩
  · rw [if_neg asks]
    by_cases echoes : request.method = .trace ∧ terminal.allowTrace = true
    · rw [if_pos echoes]
      have mentioned := listing.mpr (.inr (.inr echoes))
      refine ⟨Outcome.blameless_of_ok _ _,
        iff_of_false Status.noConfusion (not_not_intro mentioned), ?_⟩
      rintro (isOptions | refused)
      · exact absurd isOptions asks
      · cases refused
    · rw [if_neg echoes]
      unfold runHandler
      cases known : endpoint.handler? request.method with
      | none =>
          have unlisted : request.method ∉ endpoint.allowedMethods terminal.allowTrace := by
            rw [listing, known]
            simp [asks, echoes]
          exact ⟨Outcome.blameless_of_error rfl _ _, iff_of_true rfl unlisted, fun _ =>
            valuesOf_refused tidy _⟩
      | some handler =>
          have mentioned := listing.mpr (.inl (known ▸ rfl))
          rw [Option.isSome_some, Bool.true_and]
          refine (steady request.method handler known response request accepting).bind ?_
          rintro ⟨verdict, left⟩ ⟨rfl, kept⟩
          have passed := terminal.settled_checkAcceptance request kept
          refine ⟨terminal.blameless_checkAcceptance request left,
            iff_of_false passed (not_not_intro mentioned), ?_⟩
          rintro (isOptions | refused)
          · exact absurd isOptions asks
          · exact absurd refused passed

end Terminal

end HttpService
