import HttpService.Proofs.Wire.AnnouncedLength
import HttpService.Proofs.Wire.BodyFraming

/-!
Contract: the method token in front of a request.

Owns:
- that a request line that begins with the token of a method is of no other method;
- **HEAD in the place of GET**: the request that is read is the same but for its method;
- one request by every method: target and header fields are those of the others.

Does not own: which bodies the methods have.
-/

namespace HttpService.Wire

theorem space_not_mem_token (method : Method) : ' ' ∉ method.token.toList := by
  cases method <;> decide

/-- The octets of a method token hold no space. -/
theorem space_not_mem_spell_token (method : Method) :
    Utf8.octet ' ' ∉ Utf8.spell method.token.toList :=
  fun member => space_not_mem_token method ((Utf8.octet_mem_spell (by decide)).mp member)

/-- The octets of a token and of the space behind it, in front of further ones. -/
theorem encode_token_append (method : Method) (more : Bytes) :
    Utf8.encode (method.token ++ " ") ++ more =
      Utf8.spell method.token.toList ++ Utf8.octet ' ' :: more := by
  rw [Utf8.encode_eq_spell, String.toList_append, Utf8.spell_append, List.append_assoc]
  rfl

/-- Method tokens that octets begin with are the same. -/
theorem method_eq_of_tokens {first second : Method} {front back : Bytes}
    (same : Utf8.spell first.token.toList ++ Utf8.octet ' ' :: front =
      Utf8.spell second.token.toList ++ Utf8.octet ' ' :: back) : first = second := by
  have pieces := congrArg (List.splitOn (Utf8.octet ' ')) same
  rw [Utf8.splitOn_append_of_not_mem _ (space_not_mem_spell_token first),
    Utf8.splitOn_append_of_not_mem _ (space_not_mem_spell_token second),
    List.splitOn_cons_eq_if_modifyHead, List.splitOn_cons_eq_if_modifyHead,
    if_pos (beq_self_eq_true (Utf8.octet ' ')), if_pos (beq_self_eq_true (Utf8.octet ' ')),
    List.modifyHead_cons, List.modifyHead_cons, List.append_nil, List.append_nil] at pieces
  have texts := congrArg Utf8.decode? (List.cons.inj pieces).1
  rw [Utf8.decode?_spell, Utf8.decode?_spell, String.ofList_toList, String.ofList_toList] at texts
  have methods := congrArg Method.ofToken? (Option.some.inj texts)
  rw [Method.ofToken?_token, Method.ofToken?_token] at methods
  exact Option.some.inj methods

/-- A request line that is read begins with the token of its method. -/
theorem starts_of_readRequestLine {line : Bytes} {method : Method} {target : Target}
    (read : readRequestLine line = .ok (method, target)) :
    ∃ behind : List Char,
      line = Utf8.spell method.token.toList ++ Utf8.octet ' ' :: Utf8.spell behind := by
  have read' := read
  unfold readRequestLine at read
  cases decoded : Utf8.decode? line with
  | none =>
      rw [decoded] at read
      cases read
  | some text =>
      rw [← Utf8.encode_of_decode? decoded] at read' ⊢
      obtain ⟨behind, shape⟩ := start_of_readRequestLine read'
      refine ⟨behind, ?_⟩
      rw [Utf8.encode_eq_spell, shape, Utf8.spell_append]
      rfl

/-- A request line that begins with the token of a method is of no other method. -/
theorem method_of_starts {line : Bytes} {method found : Method} {target : Target}
    (starts : Utf8.encode (method.token ++ " ") <+: line)
    (read : readRequestLine line = .ok (found, target)) : found = method := by
  obtain ⟨behind, rfl⟩ := starts_of_readRequestLine read
  obtain ⟨more, whole⟩ := starts
  rw [encode_token_append] at whole
  exact (method_eq_of_tokens whole).symm

theorem method_of_readBodied {input available : Bytes} {maxBody : Nat} {method : Method}
    {target : Target} {headers : Headers} {request : Request}
    (read : readBodied input maxBody method target headers available = .ok request) :
    request.method = method := by
  obtain ⟨body, made, _⟩ := body_of_readBodied read
  rw [made]
  rfl

/-- The method of a request whose first line begins with the token of a method. -/
theorem method_of_starts_request {raw : Bytes} {maxBody : Nat} {method : Method} {request : Request}
    (starts : Utf8.encode (method.token ++ " ") <+: (nextLine raw).1)
    (read : readRequest raw maxBody = .ok request) : request.method = method := by
  obtain ⟨found, target, headers, available, first, _, bodied⟩ := parts_of_readRequest read
  rw [method_of_readBodied bodied, method_of_starts starts first]

/-! ## HEAD in the place of GET -/

/-- The octets of a GET request with the token of HEAD in the place of that of GET. -/
def headInstead (raw : Bytes) : Bytes :=
  Utf8.spell Method.head.token.toList ++ raw.drop (Utf8.spell Method.get.token.toList).length

theorem headInstead_append (behind : Bytes) :
    headInstead (Utf8.spell Method.get.token.toList ++ behind) =
      Utf8.spell Method.head.token.toList ++ behind := by
  unfold headInstead
  rw [List.drop_left]

/-- The parts of a request line are read alike for GET and for HEAD. -/
theorem readParts_head {path protocol : List Char} {target : Target}
    (read : readParts Method.get.token.toList path protocol = .ok (.get, target)) :
    readParts Method.head.token.toList path protocol = .ok (.head, target) := by
  unfold readParts at read ⊢
  rw [String.ofList_toList, Method.ofToken?_token] at read ⊢
  simp only [ne_eq, reduceCtorEq, not_false_eq_true, and_true] at read ⊢
  split_ifs at read ⊢
  cases parsed : Target.parse (String.ofList path) with
  | error error =>
      rw [parsed] at read
      cases read
  | ok found =>
      rw [parsed] at read
      cases read
      rfl

/-- A line with a token in front is read in the pieces that are behind the token. -/
theorem readRequestLine_token (method : Method) (behind : List Char) :
    readRequestLine (Utf8.spell method.token.toList ++ Utf8.octet ' ' :: Utf8.spell behind) =
      match behind.splitOn ' ' with
      | [path, protocol] => readParts method.token.toList path protocol
      | _ => .error (.malformedLine (method.token ++ " " ++ String.ofList behind)) := by
  have text : (method.token ++ " " ++ String.ofList behind).toList =
      method.token.toList ++ ' ' :: behind := by
    simp
  have whole : Utf8.spell method.token.toList ++ Utf8.octet ' ' :: Utf8.spell behind =
      Utf8.encode (method.token ++ " " ++ String.ofList behind) := by
    rw [Utf8.encode_eq_spell, text, Utf8.spell_append]
    rfl
  have pieces : (method.token ++ " " ++ String.ofList behind).toList.splitOn ' ' =
      method.token.toList :: behind.splitOn ' ' := by
    rw [text, Utf8.splitOn_append_of_not_mem _ (space_not_mem_token method),
      List.splitOn_cons_eq_if_modifyHead, if_pos (beq_self_eq_true ' '), List.modifyHead_cons,
      List.append_nil]
  rw [whole]
  unfold readRequestLine
  rw [Utf8.decode?_encode]
  simp only
  rw [pieces]
  rcases behind.splitOn ' ' with _ | ⟨path, _ | ⟨protocol, _ | _⟩⟩ <;> rfl

theorem readRequestLine_headInstead {line : Bytes} {target : Target}
    (read : readRequestLine line = .ok (.get, target)) :
    readRequestLine (headInstead line) = .ok (.head, target) := by
  obtain ⟨behind, rfl⟩ := starts_of_readRequestLine read
  rw [headInstead_append]
  rw [readRequestLine_token] at read ⊢
  split at read
  · exact readParts_head read
  · cases read

/-- Octets without a carriage return in front break no line. -/
theorem unbroken_append {front line : Bytes} (absent : cr ∉ front) (unbroken : Unbroken line) :
    Unbroken (front ++ line) := by
  induction front with
  | nil => exact unbroken
  | cons byte rest inductionHypothesis =>
      rw [List.mem_cons, not_or] at absent
      exact unbroken_cons (inductionHypothesis absent.2) fun pair => absent.1 pair.1.symm

theorem unbroken_headInstead {line : Bytes} (unbroken : Unbroken line) :
    Unbroken (headInstead line) := by
  have rest : Unbroken (line.drop (Utf8.spell Method.get.token.toList).length) :=
    fun inside => unbroken (inside.trans (List.drop_suffix _ _).isInfix)
  exact unbroken_append (by decide) rest

theorem readBodied_head {input other available : Bytes} {maxBody : Nat} {target : Target}
    {headers : Headers} {request : Request}
    (read : readBodied input maxBody .get target headers available = .ok request) :
    readBodied other maxBody .head target headers available =
      .ok { request with method := .head } := by
  unfold readBodied readBody at read ⊢
  simp only [Method.hasBody, reduceCtorEq, if_false, or_true, if_true, and_false,
    Bool.false_eq_true] at read ⊢
  split_ifs at read ⊢
  cases read
  rfl

/-- **HEAD in the place of GET.** A GET request whose method token is replaced by HEAD is read as
the same request but for its method. -/
theorem readRequest_headInstead {raw : Bytes} {maxBody : Nat} {request : Request}
    (read : readRequest raw maxBody = .ok request) (isGet : request.method = .get) :
    readRequest (headInstead raw) maxBody = .ok { request with method := .head } := by
  have counted := le_crlfCount_of_readRequest read
  rcases unbroken_or_line raw with unbroken | ⟨line, rest, rfl, unbroken⟩
  · rw [crlfCount_unbroken unbroken] at counted
    omega
  · rw [crlfCount_line rest unbroken] at counted
    have enough : 1 ≤ crlfCount rest := by omega
    obtain ⟨method, target, headers, available, first, fields, bodied⟩ := parts_of_readRequest read
    have method : method = .get := (method_of_readBodied bodied).symm.trans isGet
    subst method
    rw [nextLine_line rest unbroken] at first fields
    have first : readRequestLine line = .ok (.get, target) := first
    obtain ⟨behind, shape⟩ := starts_of_readRequestLine first
    have instead : headInstead (line ++ crlf ++ rest) = headInstead line ++ crlf ++ rest := by
      rw [shape, headInstead_append, List.append_assoc, List.append_assoc, headInstead_append,
        List.append_assoc, List.append_assoc]
    rw [instead, readRequest_line maxBody (unbroken_headInstead unbroken) enough
      (readRequestLine_headInstead first) fields]
    exact readBodied_head bodied

/-! ## One request by every method -/

/-- The octets that ask by a method for what stands behind it. -/
def asking (method : Method) (behind : Bytes) : Bytes :=
  Utf8.encode (method.token ++ " ") ++ behind

/-- What a request is read from that asks by a method: the rest of its first line, and the lines
behind that one. -/
theorem parts_of_asking {method : Method} {behind : Bytes} {maxBody : Nat} {request : Request}
    (read : readRequest (asking method behind) maxBody = .ok request) :
    ∃ line rest path protocol target headers available body,
      nextLine behind = (Utf8.spell line, some rest) ∧ line.splitOn ' ' = [path, protocol] ∧
        readParts method.token.toList path protocol = .ok (method, target) ∧
        readHeaders .empty (some rest) = .ok (headers, available) ∧
        request = .make method target headers body := by
  have counted := le_crlfCount_of_readRequest read
  have front : cr ∉ Utf8.encode (method.token ++ " ") := by cases method <;> decide
  rcases unbroken_or_line behind with unbroken | ⟨line, rest, rfl, unbroken⟩
  · unfold asking at counted
    rw [crlfCount_unbroken (unbroken_append front unbroken)] at counted
    omega
  · have shape : asking method (line ++ crlf ++ rest) =
        (Utf8.encode (method.token ++ " ") ++ line) ++ crlf ++ rest := by
      unfold asking
      rw [List.append_assoc, List.append_assoc, List.append_assoc]
    rw [shape] at read
    obtain ⟨found, target, headers, available, first, fields, bodied⟩ := parts_of_readRequest read
    rw [nextLine_line rest (unbroken_append front unbroken)] at first fields
    have same : found = method := method_of_starts (List.prefix_append _ _) first
    subst same
    obtain ⟨chars, spelled⟩ := starts_of_readRequestLine first
    rw [encode_token_append] at first spelled
    have behindToken := List.append_cancel_left spelled
    obtain ⟨_, rfl⟩ := List.cons.inj behindToken
    rw [readRequestLine_token] at first
    obtain ⟨body, made, _⟩ := body_of_readBodied bodied
    split at first
    · rename_i path protocol pieces
      exact ⟨chars, rest, path, protocol, target, headers, available, body,
        nextLine_line rest unbroken, pieces, first, fields, made⟩
    · cases first

/-- The target of a request line does not depend on the method. -/
theorem target_of_readParts {first second : Method} {path protocol : List Char}
    {target other : Target}
    (read : readParts first.token.toList path protocol = .ok (first, target))
    (again : readParts second.token.toList path protocol = .ok (second, other)) :
    other = target := by
  unfold readParts at read again
  rw [String.ofList_toList, Method.ofToken?_token] at read again
  simp only at read again
  split_ifs at read again
  cases parsed : Target.parse (String.ofList path) with
  | error error =>
      rw [parsed] at read
      cases read
  | ok found =>
      rw [parsed] at read again
      cases read
      cases again
      rfl

/-- **One request by every method.** Requests that differ in the method that they ask by have the
same target and the same header fields. -/
theorem alike_of_asking {first second : Method} {behind : Bytes} {maxBody : Nat}
    {request other : Request} (read : readRequest (asking first behind) maxBody = .ok request)
    (again : readRequest (asking second behind) maxBody = .ok other) :
    request.method = first ∧ other.method = second ∧ other.target = request.target ∧
      other.headers = request.headers := by
  obtain ⟨line, rest, path, protocol, target, headers, available, body, next, pieces, parts, fields,
    rfl⟩ := parts_of_asking read
  obtain ⟨line', rest', path', protocol', target', headers', available', body', next', pieces',
    parts', fields', rfl⟩ := parts_of_asking again
  obtain ⟨spelled, lines⟩ := Prod.mk.inj (next.symm.trans next')
  have texts := congrArg Utf8.decode? spelled
  rw [Utf8.decode?_spell, Utf8.decode?_spell, Option.some.injEq, String.ofList_inj] at texts
  subst texts
  cases lines
  rw [pieces] at pieces'
  cases pieces'
  rw [fields] at fields'
  cases fields'
  exact ⟨rfl, rfl, target_of_readParts parts parts', rfl⟩

end HttpService.Wire
