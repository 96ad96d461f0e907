import HttpService.Proofs.Headers.Merging
import HttpService.Proofs.Responses.Writing

/-!
Contract: what an error makes of the response that it is written on.

Owns:
- the fields of a table that a change elsewhere leaves, whichever of them are asked for;
- the names under which a response describes its body;
- **what an error response has from the error, and what it keeps of the response**, in which order.

Does not own: which error is written, and who sees the response afterwards.
-/

namespace HttpService

/-! ## Fields that are left -/

/-- Lists that agree on some items agree on any choice of these. -/
theorem filter_eq_of_within {α : Type} {keep wide : α → Bool} {first second : List α}
    (within : ∀ item, keep item = true → wide item = true)
    (same : first.filter wide = second.filter wide) : first.filter keep = second.filter keep := by
  have narrowed : ∀ items : List α, items.filter keep = (items.filter wide).filter keep := by
    intro items
    rw [List.filter_filter]
    refine List.filter_congr fun item _ => ?_
    cases kept : keep item with
    | false => rfl
    | true => rw [within item kept]; rfl
  rw [narrowed first, narrowed second, same]

namespace FieldTable

variable {name : String} {keep : String × List String → Bool}

theorem filter_put (apart : ∀ field, keep field = true → isOther name field = true)
    (table : FieldTable) (change : List String → List String) :
    (table.put name change).filter keep = table.filter keep :=
  filter_eq_of_within apart (others_put table name change)

theorem filter_merge {other : FieldTable}
    (apart : ∀ field, keep field = true → (!other.knows field.1) = true) (table : FieldTable) :
    (table.merge other).filter keep = table.filter keep :=
  filter_eq_of_within apart (others_merge table other)

/-- A change of values leaves the names as they are, but for a new one at the end. -/
theorem names_prefix_put (table : FieldTable) (name : String)
    (change : List String → List String) : table.names <+: (table.put name change).names := by
  unfold names
  cases known : table.knows name with
  | true =>
      have kept : ∀ field : String × List String,
          (if isNamed name field then (field.1, change field.2) else field).1 = field.1 := by
        intro field
        split <;> rfl
      rw [put_of_known known, List.map_map]
      simp only [Function.comp_def, kept]
      exact List.prefix_refl _
  | false =>
      rw [put_of_unknown known, List.map_append]
      exact List.prefix_append _ _

theorem names_prefix_merge (table other : FieldTable) :
    table.names <+: (table.merge other).names := by
  rw [names_merge]
  exact List.prefix_append _ _

end FieldTable

/-! ## Errors on a response -/

variable {World : Type}

/-- Whether a response describes its body under a name. -/
def describesBody (name : String) : Bool :=
  foldCase name == foldCase "Content-Type" || foldCase name == foldCase "Content-Length"

theorem ne_of_not_describesBody {name : String} (other : describesBody name = false) :
    foldCase (sanitize "Content-Type") ≠ foldCase name ∧
      foldCase (sanitize "Content-Length") ≠ foldCase name := by
  unfold describesBody at other
  rw [Bool.or_eq_false_iff, beq_eq_false_iff_ne, beq_eq_false_iff_ne] at other
  rw [Response.sanitize_contentType, Response.sanitize_contentLength]
  exact ⟨Ne.symm other.1, Ne.symm other.2⟩

/-- A field that an error does not touch: it brings none of that name, and the name does not describe
a body. -/
def HttpError.leaves (error : HttpError World) (field : String × List String) : Bool :=
  !error.headers.contains field.1 && !describesBody field.1

namespace Response

/-- What an error has made of a response. Each name stands in it once. It has the status and the body
of the error, and describes this body and nothing else; any other name that the error brings has the
values of the error; and all the rest is as it was, in the same order. -/
structure Overwritten (before : Response) (error : HttpError World) (after : Response) : Prop where
  tidy : after.headers.Tidy
  status : after.status = error.status
  body : after.body = Utf8.encode error.body
  length : after.headers.all? "Content-Length" = some [toString after.body.length]
  type : after.headers.all? "Content-Type" = some ["text/plain; charset=utf-8"]
  brought : ∀ name, describesBody name = false → error.headers.contains name = true →
    after.headers.all? name = error.headers.all? name
  kept : after.headers.content.filter error.leaves = before.headers.content.filter error.leaves
  order : before.headers.names <+: after.headers.names

section

variable {response : Response} {error : HttpError World}

/-- The headers of an error response: those of the error first, and then those that describe its
body. -/
theorem headers_writeError (response : Response) (error : HttpError World) :
    (response.writeError error).headers =
      ((response.headers.merge error.headers).set "Content-Type" "text/plain; charset=utf-8").set
        "Content-Length" (toString (response.writeError error).body.length) := by
  have rendered : (MediaType.textPlain.withCharset "utf-8").render = "text/plain; charset=utf-8" := by
    decide
  rw [← rendered]
  rfl

theorem length_writeError (response : Response) (error : HttpError World) :
    (response.writeError error).headers.all? "Content-Length" =
      some [toString (response.writeError error).body.length] := by
  have stated := Headers.all?_set_self
    ((response.headers.merge error.headers).set "Content-Type" "text/plain; charset=utf-8")
    "Content-Length" (toString (response.writeError error).body.length)
  rwa [sanitize_contentLength, sanitize_toString, ← headers_writeError] at stated

theorem type_writeError (response : Response) (error : HttpError World) :
    (response.writeError error).headers.all? "Content-Type" =
      some ["text/plain; charset=utf-8"] := by
  have value : sanitize "text/plain; charset=utf-8" = "text/plain; charset=utf-8" := by decide
  have stated := Headers.all?_set_self (response.headers.merge error.headers)
    "Content-Type" "text/plain; charset=utf-8"
  rw [sanitize_contentType, value] at stated
  rw [headers_writeError, Headers.all?_set_of_ne (by decide), stated]

theorem all?_writeError_of_brought (tidy : response.headers.Tidy) (further : error.headers.Tidy)
    {name : String} (other : describesBody name = false)
    (brought : error.headers.contains name = true) :
    (response.writeError error).headers.all? name = error.headers.all? name := by
  obtain ⟨notType, notLength⟩ := ne_of_not_describesBody other
  rw [headers_writeError, Headers.all?_set_of_ne notLength, Headers.all?_set_of_ne notType,
    tidy.all?_merge further, if_pos brought]

/-- The fields of an error response, as changes of those of the response. -/
theorem content_writeError (tidy : response.headers.Tidy) (further : error.headers.Tidy) :
    (response.writeError error).headers.content =
      ((response.headers.content.merge error.headers.content).set
        "Content-Type" "text/plain; charset=utf-8").set
          "Content-Length" (toString (response.writeError error).body.length) := by
  have merged := tidy.merge error.headers
  rw [headers_writeError, (merged.set _ _).content_set, merged.content_set,
    tidy.content_merge further]

theorem filter_leaves_writeError (tidy : response.headers.Tidy) (further : error.headers.Tidy) :
    (response.writeError error).headers.content.filter error.leaves =
      response.headers.content.filter error.leaves := by
  have apart : ∀ field, error.leaves field = true →
      (!error.headers.content.knows field.1) = true ∧
        FieldTable.isOther (sanitize "Content-Type") field = true ∧
          FieldTable.isOther (sanitize "Content-Length") field = true := by
    intro field left
    unfold HttpError.leaves at left
    rw [Bool.and_eq_true, Bool.not_eq_true', Bool.not_eq_true', further.contains_eq] at left
    obtain ⟨notType, notLength⟩ := ne_of_not_describesBody left.2
    simp [FieldTable.isOther, FieldTable.isNamed, left.1, Ne.symm notType, Ne.symm notLength]
  rw [content_writeError tidy further]
  unfold FieldTable.set
  rw [FieldTable.filter_put fun field left => (apart field left).2.2,
    FieldTable.filter_put fun field left => (apart field left).2.1,
    FieldTable.filter_merge fun field left => (apart field left).1]

theorem names_prefix_writeError (tidy : response.headers.Tidy) (further : error.headers.Tidy) :
    response.headers.names <+: (response.writeError error).headers.names := by
  rw [← Headers.names_content, ← Headers.names_content, content_writeError tidy further]
  unfold FieldTable.set
  exact ((FieldTable.names_prefix_merge _ _).trans (FieldTable.names_prefix_put _ _ _)).trans
    (FieldTable.names_prefix_put _ _ _)

/-- **An error response keeps what has been written, and overrides only what it must.** Whatever
operations have built the headers of a response and those of an error, and whatever else they hold:
once the error is written on the response, status and body are those of the error; the length and the
media type of this body are stated once each, whatever either of them said before; every other name
that the error brings has exactly its values; and the remaining fields keep their values, their casing
and their order. -/
theorem writeError_overwrites (built : response.headers.Built) (further : error.headers.Built) :
    response.Overwritten error (response.writeError error) where
  tidy := by
    rw [headers_writeError]
    exact ((built.tidy.merge error.headers).set _ _).set _ _
  status := rfl
  body := body_writeError response error
  length := length_writeError response error
  type := type_writeError response error
  brought := fun _ => all?_writeError_of_brought built.tidy further.tidy
  kept := filter_leaves_writeError built.tidy further.tidy
  order := names_prefix_writeError built.tidy further.tidy

end

/-- A response that states two lengths, and some cookies. -/
def crowded : Response :=
  Response.ofStatus .ok
    |>.setHeader "content-length" "9"
    |>.appendHeader "Content-Length" "8"
    |>.setHeader "Vary" "a"
    |>.appendHeader "vary" "b"
    |>.appendHeader "X-Page" "1"

/-- An error that states media types of its own. -/
def contrary : HttpError Unit :=
  ⟨.badRequest, some "no", none,
    Headers.empty
      |>.append "CONTENT-TYPE" "text/html"
      |>.append "content-type" "text/css"
      |>.append "x-page" "2"⟩

theorem crowded_built : crowded.headers.Built :=
  Headers.Built.empty.set _ _ |>.set _ _ |>.append _ _ |>.set _ _ |>.append _ _ |>.append _ _

theorem contrary_built : contrary.headers.Built :=
  Headers.Built.empty.append _ _ |>.append _ _ |>.append _ _

theorem writeError_overwrites_contrary :
    crowded.headers.Built ∧ contrary.headers.Built ∧
      crowded.Overwritten contrary (crowded.writeError contrary) ∧
        (crowded.writeError contrary).headers.content =
          [("Server", ["microroute-rs"]), ("content-length", ["7"]), ("Vary", ["a", "b"]),
            ("X-Page", ["2"]), ("CONTENT-TYPE", ["text/plain; charset=utf-8"])] :=
  ⟨crowded_built, contrary_built, writeError_overwrites crowded_built contrary_built,
    by decide +kernel⟩

end Response

end HttpService
