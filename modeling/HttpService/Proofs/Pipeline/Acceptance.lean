import HttpService.Proofs.Pipeline.Identifying
import HttpService.Proofs.Wire.BodyFraming

/-!
Contract: requests that do not say what their client accepts.

Owns:
- what a star for kind and subtype answers for;
- that a request which is made without an `Accept` field accepts what such a star answers for;
- **what becomes of the response of a handler to such a request under strict acceptance**: it
  stands, unless it declares a media type with a charset other than UTF-8.

Does not own: requests with an `Accept` field.
-/

namespace HttpService

variable {World : Type}

namespace MediaType

/-- A star for kind and subtype answers for every type without a charset or in UTF-8, and for no
other type. -/
theorem any_covers (type : MediaType) : any.covers type = isUtf8 type.charset := by
  unfold covers any plain
  cases type.charset with
  | none => rfl
  | some charset => simp [isUtf8]

end MediaType

/-- The media type that a response declares, if it can be read. -/
def Response.mediaType? (response : Response) : Option MediaType :=
  (response.headers.first? "Content-Type").bind MediaType.parse?

/-- The error for a response of a type that the client does not accept. -/
def unacceptable (type : MediaType) : HttpError World :=
  (HttpError.ofStatus .notAcceptable).withMessage ("Client does not accept " ++ type.render)

/-- The media type that a response declares, if it is in another charset than UTF-8. -/
def Response.foreignType? (response : Response) : Option MediaType :=
  response.mediaType?.filter fun type => !MediaType.isUtf8 type.charset

namespace Request

theorem isAcceptable_of_any {request : Request} (accepts : request.accepts = [.any])
    (type : MediaType) : request.isAcceptable type = MediaType.isUtf8 type.charset := by
  unfold isAcceptable
  rw [accepts, List.any_cons, List.any_nil, Bool.or_false, MediaType.any_covers]

end Request

/-- A request that is made without an `Accept` field accepts what a star answers for. -/
theorem Request.Made.accepts {request : Request} (made : request.Made)
    (absent : request.headers.valuesOf "Accept" = []) : request.accepts = [.any] := by
  obtain ⟨method, target, headers, body, rfl, built⟩ := made
  have absent : headers.valuesOf "Accept" = [] := absent
  show MediaType.accepted (headers.all? "Accept") = [.any]
  rw [built.tidy.valuesOf_eq] at absent
  cases found : headers.all? "Accept" with
  | none => rfl
  | some values =>
      rw [found] at absent
      exact absurd absent (built.tidy.ne_nil_of_all? found)

namespace Terminal

variable {terminal : Terminal World} {request : Request}

/-- The verdict on what a handler has ended with, if the client has not said what it accepts. -/
def verdictUnasked (ended : Verdict World × Response) : Verdict World :=
  match ended.1, ended.2.foreignType? with
  | .ok (), some type => .error (.ofHttp (unacceptable type))
  | verdict, _ => verdict

theorem checkAcceptance_of_any (strict : terminal.strictAcceptance = true)
    (accepts : request.accepts = [.any]) (response : Response) :
    terminal.checkAcceptance response request = verdictUnasked (.ok (), response) := by
  unfold checkAcceptance verdictUnasked Response.foreignType? Response.mediaType?
  rw [if_pos strict]
  cases (response.headers.first? "Content-Type").bind MediaType.parse? with
  | none => rfl
  | some type =>
      simp only [Request.isAcceptable_of_any accepts, Option.filter_some]
      cases MediaType.isUtf8 type.charset with
      | true => rfl
      | false => rfl

/-- Where a handler serves the request, the end of the chain runs it and judges what it leaves. -/
theorem dispatch_served {endpoint : Endpoint World} {handler : Handler World}
    (served : terminal.endpoint = some endpoint) (ordinary : request.target.isAsterisk = false)
    (known : endpoint.handler? request.method = some handler) (response : Response) :
    terminal.dispatch response request = terminal.runHandler endpoint response request := by
  have method : request.method ≠ .options ∧ request.method ≠ .trace := by
    constructor
    · intro options
      rw [options] at known
      cases known
    · intro trace
      rw [trace] at known
      cases known
  unfold dispatch
  rw [ordinary, if_neg (by decide), served]
  simp only
  rw [if_neg method.1, if_neg fun both => method.2 both.1]

theorem runHandler_of_any {endpoint : Endpoint World} {handler : Handler World}
    (strict : terminal.strictAcceptance = true) (accepts : request.accepts = [.any])
    (known : endpoint.handler? request.method = some handler) (response : Response) :
    terminal.runHandler endpoint response request =
      (handler response request).bind fun ended =>
        .done ⟨verdictUnasked ended, ended.2, request⟩ := by
  unfold runHandler
  rw [known]
  simp only
  congr 1
  funext ended
  obtain ⟨verdict, left⟩ := ended
  cases verdict with
  | error fault => rfl
  | ok _ =>
      simp only
      rw [checkAcceptance_of_any strict accepts]

/-- **What a request without an `Accept` field accepts.** It accepts every media type without a
charset or in UTF-8, and no other. When it comes to the end of a chain with strict acceptance,
whatever else the chain has made of it, and a handler serves it, then the verdict and the response
of the handler stand, unless the handler has succeeded with a response that declares another
charset: that one is refused as not acceptable. -/
theorem dispatch_without_accept {request : Request} (made : request.Made)
    (absent : request.headers.valuesOf "Accept" = []) :
    (∀ type, MediaType.any.covers type = MediaType.isUtf8 type.charset ∧
      request.isAcceptable type = MediaType.isUtf8 type.charset) ∧
      ∀ (terminal : Terminal World) (reached : Request) (endpoint : Endpoint World)
        (handler : Handler World), terminal.strictAcceptance = true →
          terminal.endpoint = some endpoint → reached.accepts = request.accepts →
            reached.target.isAsterisk = false →
              endpoint.handler? reached.method = some handler →
                ∀ response, terminal.dispatch response reached =
                  (handler response reached).bind fun ended =>
                    .done ⟨verdictUnasked ended, ended.2, reached⟩ := by
  have accepts := made.accepts absent
  refine ⟨fun type => ⟨MediaType.any_covers type, Request.isAcceptable_of_any accepts type⟩, ?_⟩
  intro terminal reached endpoint handler strict served same ordinary known response
  rw [dispatch_served served ordinary known,
    runHandler_of_any strict (same.trans accepts) known]

end Terminal

/-! ## A response in another charset -/

namespace Pipeline

/-- Text in another charset than UTF-8. -/
def latin : MediaType :=
  MediaType.textPlain.withCharset "iso-8859-1"

/-- A route whose handler answers with such text. -/
def latinEndpoint : Endpoint Unit :=
  Endpoint.empty.withHandler .get fun response _ =>
    .done (.ok (), response.setTyped latin (Utf8.encode "hello"))

def strictConfig : Config Unit :=
  { (Config.default : Config Unit) with strictAcceptance := true }

/-- A service with this route and strict acceptance. -/
def latinService : Pipeline Unit :=
  ⟨strictConfig, ⟨(Routing.Trie.empty.insert ⟨[.literal "a"]⟩ latinEndpoint).2, .root⟩, .empty,
    guards strictConfig, .empty⟩

/-- The response of its handler. -/
def latinResponse : Response :=
  (Response.forMethod .get).setTyped latin (Utf8.encode "hello")

theorem parsed_latin : Wire.readRequest namedBytes latinService.config.maxBody = .ok lostRequest :=
  parsed_namedBytes defaultIdHeader []

theorem acceptless_latin : lostRequest.headers.valuesOf "Accept" = [] := by
  decide +kernel

theorem dispatch_without_accept_latin :
    lostRequest.Made ∧ lostRequest.headers.valuesOf "Accept" = [] ∧
      (∀ type, lostRequest.isAcceptable type = MediaType.isUtf8 type.charset) ∧
      (latinService.terminal (some latinEndpoint)).dispatch (.forMethod .get) lostRequest =
        .done ⟨.error (.ofHttp (unacceptable latin)), latinResponse, lostRequest⟩ := by
  have made := Wire.made_of_readRequest parsed_latin
  obtain ⟨accepted, ends⟩ := Terminal.dispatch_without_accept made acceptless_latin
  refine ⟨made, acceptless_latin, fun type => (accepted type).2, ?_⟩
  rw [ends (latinService.terminal (some latinEndpoint)) lostRequest latinEndpoint _ rfl rfl rfl rfl
    rfl]
  rfl

/-- Such a response is refused, although the client has not said what it accepts. -/
theorem refused_without_accept :
    Wire.readRequest namedBytes latinService.config.maxBody = .ok lostRequest ∧
      lostRequest.headers.valuesOf "Accept" = [] ∧
      MediaType.any.covers latin = false ∧ lostRequest.isAcceptable latin = false ∧
      latinEndpoint.handler? .get =
        some (fun response _ => .done (.ok (), response.setTyped latin (Utf8.encode "hello"))) ∧
      (latinService.handle namedBytes none (.start ())).1 =
        .ok (latinResponse.writeError (unacceptable latin : HttpError Unit)) := by
  refine ⟨parsed_latin, acceptless_latin, by decide, by decide, rfl, ?_⟩
  have way : latinService.directed (latinService.opened lostRequest none 0) =
      .ok (some latinEndpoint, latinService.opened lostRequest none 0) := rfl
  have comes := comes_chainRun (Machine.fresh_start ()) latinService
    (latinService.opened lostRequest none 0) (some latinEndpoint)
    (latinService.opened lostRequest none 0)
  have job : latinService.chainJob (some latinEndpoint) (latinService.opened lostRequest none 0) =
      .ofOutcome (.ok ⟨.error (.ofHttp (unacceptable latin)), latinResponse,
        asked (latinService.opened lostRequest none 0) "x"⟩) := rfl
  rw [job] at comes
  have came := comes.of_outcome (by decide)
  obtain ⟨_, _, answered⟩ := handle_of_came (by decide) parsed_latin way came
  exact answered

end Pipeline

end HttpService
