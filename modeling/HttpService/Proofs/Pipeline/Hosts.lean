import HttpService.Pipeline.Guard
import HttpService.Proofs.Text.Expressions
import HttpService.Proofs.Text.Trim

/-!
Contract: the hosts that the entries of an allow list stand for.

Owns:
- the regular expression that is put together from the entries, as a text and as it is read;
- the hosts that entries stand for, in terms of their characters;
- that the expression is found in these hosts and no others, and that the guard allows the same ones;
- **which hosts pass the guard**.

Does not own: requests with no host or several, and the syntax of expressions.
-/

namespace HttpService.Guard

open Text Expression

/-! ## Hosts -/

/-- The domain of an entry that starts with a dot. -/
def domain? (entry : List Char) : Option (List Char) :=
  match entry with
  | '.' :: domain => some domain
  | _ => none

/-- The names that an entry stands for: itself, or the domain behind its dot, with or without one
label in front. -/
inductive StandsFor (inLabel : Char → Prop) : List Char → List Char → Prop where
  | whole {entry : List Char} (undotted : entry.head? ≠ some '.') : StandsFor inLabel entry entry
  | domain {domain : List Char} : StandsFor inLabel ('.' :: domain) domain
  | below {domain label : List Char} (filled : label ≠ []) (inside : ∀ c ∈ label, inLabel c) :
      StandsFor inLabel ('.' :: domain) (label ++ '.' :: domain)

/-- A host that entries stand for: a name of an entry, alone or with a port. -/
def Designates (inLabel inPort : Char → Prop) (entries : List String) (host : List Char) : Prop :=
  ∃ entry ∈ entries, ∃ name, StandsFor inLabel entry.toList name ∧
    (host = name ∨ ∃ digits, digits ≠ [] ∧ (∀ c ∈ digits, inPort c) ∧ host = name ++ ':' :: digits)

/-- The characters of labels, as classes have them. -/
def IsLabelChar (c : Char) : Prop :=
  isWord c = true ∨ c = '-'

/-- The characters of labels among those of ASCII. -/
def IsAsciiLabelChar (c : Char) : Prop :=
  c.isAlphanum = true ∨ c = '_' ∨ c = '-'

instance : DecidablePred IsAsciiLabelChar :=
  fun c => inferInstanceAs (Decidable (c.isAlphanum = true ∨ c = '_' ∨ c = '-'))

/-! ## The guard -/

section

variable {entry name host : List Char}

theorem head?_ne_dot_iff : entry.head? ≠ some '.' ↔ ∀ domain, entry ≠ '.' :: domain := by
  simp [List.head?_eq_some_iff]

theorem dot_not_mem_label {label : List Char} (inside : ∀ c ∈ label, IsLabelChar c) :
    '.' ∉ label := by
  intro member
  rcases inside '.' member with word | hyphen
  · cases word
  · cases hyphen

theorem isLabel_iff {label : List Char} :
    isLabel label = true ↔ label ≠ [] ∧ ∀ c ∈ label, IsLabelChar c := by
  simp [isLabel, IsLabelChar]

theorem entryAllows_iff : entryAllows entry name = true ↔ StandsFor IsLabelChar entry name := by
  unfold entryAllows
  split
  · rename_i domain
    rw [Bool.or_eq_true, beq_iff_eq]
    constructor
    · rintro (rfl | labelled)
      · exact .domain
      · cases cut : cut? '.' name with
        | none =>
            rw [cut] at labelled
            cases labelled
        | some parts =>
            obtain ⟨label, rest⟩ := parts
            simp only [cut, Bool.and_eq_true, beq_iff_eq] at labelled
            obtain ⟨labelled, rfl⟩ := labelled
            obtain ⟨filled, inside⟩ := isLabel_iff.mp labelled
            exact eq_append_of_cut? cut ▸ .below filled inside
    · intro stands
      cases stands with
      | whole undotted => exact absurd rfl undotted
      | domain => exact .inl rfl
      | below filled inside =>
          rw [cut?_append (dot_not_mem_label inside)]
          exact .inr (by simp [isLabel_iff.mpr ⟨filled, inside⟩])
  · rename_i undotted
    rw [beq_iff_eq]
    constructor
    · rintro rfl
      exact .whole (head?_ne_dot_iff.mpr undotted)
    · intro stands
      cases stands with
      | whole => rfl
      | domain => exact absurd rfl (undotted _)
      | below => exact absurd rfl (undotted _)

/-- A port stands behind the last colon of a host. -/
theorem withoutPort?_eq_some_iff :
    withoutPort? host = some name ↔ ∃ digits, digits ≠ [] ∧ (∀ c ∈ digits, isDecimal c = true) ∧
      host = name ++ ':' :: digits := by
  constructor
  · intro found
    have taken := List.prefix_iff_eq_take.mp (List.takeWhile_prefix (l := host.reverse) isDecimal)
    have shape := List.take_append_drop (host.reverse.takeWhile isDecimal).length host.reverse
    rw [← taken] at shape
    unfold withoutPort? at found
    simp only at found
    split at found
    · rename_i front rest
      split at found
      · cases found
      · rename_i filled
        cases found
        refine ⟨(host.reverse.takeWhile isDecimal).reverse, by simpa using filled, ?_, ?_⟩
        · intro c member
          exact List.all_eq_true.mp List.all_takeWhile c (List.mem_reverse.mp member)
        · rw [rest] at shape
          exact List.reverse_inj.mp (by simpa using shape.symm)
    · cases found
  · rintro ⟨digits, filled, decimal, rfl⟩
    have taken : (name ++ ':' :: digits).reverse.takeWhile isDecimal = digits.reverse := by
      rw [List.reverse_append, List.reverse_cons, List.append_assoc, List.takeWhile_append_of_pos
        fun c member => decimal c (List.mem_reverse.mp member)]
      simp [isDecimal]
    unfold withoutPort?
    simp only [taken]
    simp [filled]

theorem hostAllowed_iff {entries : List String} {host : String} :
    hostAllowed entries host = true ↔
      Designates IsLabelChar (fun c => isDecimal c = true) entries host.toList := by
  unfold hostAllowed Designates
  rw [List.any_eq_true]
  refine exists_congr fun entry => and_congr_right fun _ => ?_
  rw [Bool.or_eq_true, entryAllows_iff]
  constructor
  · rintro (stands | ported)
    · exact ⟨_, stands, .inl rfl⟩
    · cases cut : withoutPort? host.toList with
      | none =>
          rw [cut] at ported
          cases ported
      | some name =>
          rw [cut] at ported
          exact ⟨name, entryAllows_iff.mp ported, .inr (withoutPort?_eq_some_iff.mp cut)⟩
  · rintro ⟨name, stands, rfl | ported⟩
    · exact .inl stands
    · rw [withoutPort?_eq_some_iff.mpr ported]
      exact .inr (entryAllows_iff.mpr stands)

end

/-! ## The expression -/

/-- The domains of the entries that start with a dot. -/
def domains (entries : List String) : List (List Char) :=
  entries.filterMap fun entry => domain? entry.toList

/-- The entries that start with no dot. -/
def wholes (entries : List String) : List (List Char) :=
  (entries.map String.toList).filter fun entry => domain? entry = none

/-- The alternatives of a host: some domain below an optional label, and each entry with no dot. -/
def alternatives (entries : List String) : List (List Char) :=
  (if domains entries = [] then []
    else [grouped ["[\\w-]+\\.".toList] ++ ['?'] ++ grouped ((domains entries).map escape)]) ++
  (wholes entries).map escape

/-- The expression that is put together from the entries. -/
def matcherText (entries : List String) : List Char :=
  ['^'] ++ (grouped (alternatives entries) ++ (grouped [":\\d+".toList] ++ ['?'])) ++ ['$']

def labelParts : List Expression :=
  [repeated (one [.word, .char '-']), one [.char '.']]

def portParts : List Expression :=
  [one [.char ':'], repeated (one [.digit])]

/-- What the alternatives of a host are read as. -/
def alternativeParts (entries : List String) : List (List Expression) :=
  (if domains entries = [] then []
    else [[optional (all labelParts), any ((domains entries).map literal)]]) ++
  (wholes entries).map fun entry => entry.map fun c => one [.char c]

/-- What the expression is read as. -/
def matcher (entries : List String) : Expression :=
  all (start :: ([any ((alternativeParts entries).map all), optional (all portParts)] ++ [stop]))

theorem reads_label : Reads "[\\w-]+\\.".toList labelParts := by
  have letters : Reads "[\\w-]".toList [one [.word, .char '-']] := fun _ _ => rfl
  exact letters.repeated.append (reads_escaped rfl)

theorem reads_port : Reads ":\\d+".toList portParts := by
  have digit : Reads "\\d".toList [one [.digit]] := fun _ _ => rfl
  exact (reads_char rfl).append digit.repeated

/-- Escaped texts are read as the characters of each. -/
theorem forall₂_escape (texts : List (List Char)) :
    List.Forall₂ Reads (texts.map escape)
      (texts.map fun text => text.map fun c => one [.char c]) := by
  rw [List.forall₂_map_left_iff, List.forall₂_map_right_iff]
  exact List.forall₂_same.mpr fun text _ => reads_escape text

theorem reads_alternatives (entries : List String) :
    List.Forall₂ Reads (alternatives entries) (alternativeParts entries) := by
  unfold alternatives alternativeParts
  refine List.rel_append ?_ (forall₂_escape _)
  by_cases none : domains entries = []
  · rw [if_pos none, if_pos none]
    exact .nil
  · rw [if_neg none, if_neg none]
    have label := Reads.grouped (.cons reads_label .nil) (List.cons_ne_nil _ _)
    have below := Reads.grouped (forall₂_escape (domains entries)) (by simpa using none)
    rw [List.map_map] at below
    exact .cons (label.optional.append below) .nil

theorem alternatives_ne_nil {entries : List String} (listed : entries ≠ []) :
    alternatives entries ≠ [] := by
  obtain ⟨entry, rest, rfl⟩ := List.exists_cons_of_ne_nil listed
  unfold alternatives domains wholes
  cases dotted : domain? entry.toList with
  | none => simp [dotted]
  | some domain => simp [dotted]

/-- **The text that is put together is read as the expression.** -/
theorem read?_matcherText {entries : List String} (listed : entries ≠ []) :
    read? (matcherText entries) = some (matcher entries) := by
  have host := Reads.grouped (reads_alternatives entries) (alternatives_ne_nil listed)
  have port := Reads.grouped (.cons reads_port .nil) (List.cons_ne_nil _ _)
  have begins : Reads ['^'] [start] := fun _ _ => rfl
  have ends : Reads ['$'] [stop] := fun _ _ => rfl
  exact read?_of_reads ((begins.append (host.append port.optional)).append ends)

/-! ## What the expression matches -/

section

variable {front inside back : List Char}

theorem holds_label_iff {c : Char} :
    (∃ member ∈ [Member.word, .char '-'], member.holds c = true) ↔ IsLabelChar c := by
  simp [Member.holds, IsLabelChar]

theorem matches_label_iff :
    (all labelParts).Matches front inside back ↔
      ∃ label, label ≠ [] ∧ (∀ c ∈ label, IsLabelChar c) ∧ inside = label ++ ['.'] := by
  simp only [labelParts, all, matches_sequence_iff, matches_nothing_iff, matches_one_iff,
    matches_repeated_one_iff, holds_label_iff]
  constructor
  · rintro ⟨label, _, rfl, ⟨filled, each⟩, _, _, rfl, ⟨c, rfl, member, among, holds⟩, rfl⟩
    rw [List.mem_singleton.mp among] at holds
    rw [eq_of_beq holds]
    exact ⟨label, filled, each, rfl⟩
  · rintro ⟨label, filled, each, rfl⟩
    exact ⟨label, ['.'], rfl, ⟨filled, each⟩, ['.'], [], rfl,
      ⟨'.', rfl, .char '.', List.mem_singleton_self _, rfl⟩, rfl⟩

theorem matches_port_iff :
    (all portParts).Matches front inside back ↔
      ∃ digits, digits ≠ [] ∧ (∀ c ∈ digits, isDecimal c = true) ∧ inside = ':' :: digits := by
  simp only [portParts, all, matches_sequence_iff, matches_nothing_iff, matches_one_iff,
    matches_repeated_one_iff]
  constructor
  · rintro ⟨_, _, rfl, ⟨c, rfl, member, among, holds⟩, digits, _, rfl, ⟨filled, each⟩, rfl⟩
    rw [List.mem_singleton.mp among] at holds
    rw [eq_of_beq holds]
    refine ⟨digits, filled, fun c member => ?_, by simp⟩
    simpa [Member.holds] using each c member
  · rintro ⟨digits, filled, each, rfl⟩
    refine ⟨[':'], digits, rfl, ⟨':', rfl, .char ':', List.mem_singleton_self _, rfl⟩, digits, [],
      by simp, ⟨filled, ?_⟩, rfl⟩
    exact fun c member => ⟨.digit, by simp, each c member⟩

/-- Domains below an optional label match the domains, alone or with one label in front. -/
theorem matches_domains_iff {domains : List (List Char)} :
    (all [optional (all labelParts), any (domains.map literal)]).Matches front inside back ↔
      ∃ domain ∈ domains, inside = domain ∨
        ∃ label, label ≠ [] ∧ (∀ c ∈ label, IsLabelChar c) ∧ inside = label ++ '.' :: domain := by
  have listed {front inside back : List Char} :
      (any (domains.map literal)).Matches front inside back ↔ inside ∈ domains := by
    simp [matches_any_iff, matches_literal_iff]
  simp only [all, matches_sequence_iff, matches_nothing_iff, matches_optional_iff, matches_label_iff,
    listed]
  constructor
  · rintro ⟨_, _, rfl, labelled, domain, _, rfl, among, rfl⟩
    refine ⟨domain, among, ?_⟩
    rcases labelled with rfl | ⟨label, filled, each, rfl⟩
    · exact .inl (by simp)
    · exact .inr ⟨label, filled, each, by simp⟩
  · rintro ⟨domain, among, rfl | ⟨label, filled, each, rfl⟩⟩
    · exact ⟨[], inside, rfl, .inl rfl, inside, [], by simp, among, rfl⟩
    · exact ⟨label ++ ['.'], domain, by simp, .inr ⟨label, filled, each, rfl⟩, domain, [], by simp,
        among, rfl⟩

theorem domain?_eq_none_iff {entry : List Char} : domain? entry = none ↔ entry.head? ≠ some '.' := by
  unfold domain?
  split
  · simp
  · rename_i undotted
    exact iff_of_true rfl (head?_ne_dot_iff.mpr undotted)

theorem domain?_eq_some_iff {entry domain : List Char} :
    domain? entry = some domain ↔ entry = '.' :: domain := by
  unfold domain?
  split
  · simp
  · rename_i undotted
    exact iff_of_false nofun (undotted domain)

/-- The alternatives match the names that the entries stand for. -/
theorem matches_alternatives_iff {entries : List String} :
    (any ((alternativeParts entries).map all)).Matches front inside back ↔
      ∃ entry ∈ entries, StandsFor IsLabelChar entry.toList inside := by
  have parted : (any ((alternativeParts entries).map all)).Matches front inside back ↔
      (∃ domain ∈ domains entries, inside = domain ∨
        ∃ label, label ≠ [] ∧ (∀ c ∈ label, IsLabelChar c) ∧ inside = label ++ '.' :: domain) ∨
      inside ∈ wholes entries := by
    have whole (entry : List Char) :
        (all (entry.map fun c => one [.char c])).Matches front inside back ↔ inside = entry :=
      matches_literal_iff
    rw [matches_any_iff]
    unfold alternativeParts
    by_cases none : domains entries = []
    · simp [none, whole]
    · simp only [if_neg none, List.singleton_append, List.map_cons, List.exists_mem_cons_iff,
        matches_domains_iff]
      simp [whole]
  rw [parted]
  unfold domains wholes
  simp only [List.mem_filterMap, List.mem_filter, List.mem_map, decide_eq_true_eq,
    domain?_eq_some_iff, domain?_eq_none_iff]
  constructor
  · rintro (⟨domain, ⟨entry, member, dotted⟩, rfl | ⟨label, filled, each, rfl⟩⟩ |
      ⟨⟨entry, member, rfl⟩, undotted⟩)
    · exact ⟨entry, member, dotted ▸ .domain⟩
    · exact ⟨entry, member, dotted ▸ .below filled each⟩
    · exact ⟨entry, member, .whole undotted⟩
  · rintro ⟨entry, member, stands⟩
    generalize shape : entry.toList = chars at stands
    cases stands with
    | whole undotted => exact .inr ⟨⟨entry, member, shape⟩, undotted⟩
    | domain => exact .inl ⟨_, ⟨entry, member, shape⟩, .inl rfl⟩
    | below filled each => exact .inl ⟨_, ⟨entry, member, shape⟩, .inr ⟨_, filled, each, rfl⟩⟩

end

/-- **The expression is found in the hosts that the entries stand for, and in no others.** -/
theorem found_matcher_iff {entries : List String} {host : List Char} :
    (matcher entries).Found host ↔
      Designates IsLabelChar (fun c => isDecimal c = true) entries host := by
  unfold matcher Designates
  rw [found_anchored_iff]
  simp only [all, matches_sequence_iff, matches_nothing_iff, matches_alternatives_iff,
    matches_optional_iff, matches_port_iff]
  constructor
  · rintro ⟨name, _, rfl, ⟨entry, member, stands⟩, tail, _, rfl, ported, rfl⟩
    refine ⟨entry, member, name, stands, ?_⟩
    rcases ported with rfl | ⟨digits, filled, each, rfl⟩
    · exact .inl (by simp)
    · exact .inr ⟨digits, filled, each, by simp⟩
  · rintro ⟨entry, member, name, stands, rfl | ⟨digits, filled, each, rfl⟩⟩
    · exact ⟨host, [], by simp, ⟨entry, member, stands⟩, [], [], rfl, .inl rfl, rfl⟩
    · exact ⟨name, ':' :: digits, rfl, ⟨entry, member, stands⟩, ':' :: digits, [], by simp,
        .inr ⟨digits, filled, each, rfl⟩, rfl⟩

/-! ## Hosts of ASCII -/

/-- Only the characters of a host matter. -/
theorem Designates.imp {inLabel inPort other further : Char → Prop} {entries : List String}
    {host : List Char} (labels : ∀ c ∈ host, inLabel c → other c)
    (ports : ∀ c ∈ host, inPort c → further c) (designated : Designates inLabel inPort entries host) :
    Designates other further entries host := by
  obtain ⟨entry, member, name, stands, whole⟩ := designated
  -- Labels and ports are pieces of the host; the rest of it is given by the entry.
  have inside : ∀ c ∈ name, c ∈ host := by
    rcases whole with rfl | ⟨digits, -, -, rfl⟩
    · exact fun c among => among
    · exact fun c among => List.mem_append_left _ among
  refine ⟨entry, member, name, ?_, ?_⟩
  · generalize entry.toList = chars at stands
    cases stands with
    | whole undotted => exact .whole undotted
    | domain => exact .domain
    | below filled each =>
        exact .below filled fun c among =>
          labels c (inside c (List.mem_append_left _ among)) (each c among)
  · rcases whole with same | ⟨digits, filled, each, rfl⟩
    · exact .inl same
    · refine .inr ⟨digits, filled, fun c among => ports c ?_ (each c among), rfl⟩
      exact List.mem_append_right _ (List.mem_cons_of_mem _ among)

/-- Among the characters of ASCII the classes hold letters, digits, `_` and the hyphen, and digits. -/
theorem designates_ascii_iff {entries : List String} {host : List Char}
    (ascii : ∀ c ∈ host, c.toNat < 0x80) :
    Designates IsLabelChar (fun c => isDecimal c = true) entries host ↔
      Designates IsAsciiLabelChar (fun c => c.isDigit = true) entries host := by
  have label : ∀ c ∈ host, IsLabelChar c ↔ IsAsciiLabelChar c := by
    intro c member
    simp [IsLabelChar, IsAsciiLabelChar, isWord, ascii c member, or_assoc]
  have digit : ∀ c ∈ host, isDecimal c = c.isDigit := fun c member => if_pos (ascii c member)
  constructor
  · exact .imp (fun c member => (label c member).mp) fun c member decimal => digit c member ▸ decimal
  · exact .imp (fun c member => (label c member).mpr) fun c member decimal =>
      (digit c member).trans decimal

/-! ## The hosts that pass -/

variable {World : Type}

/-- **A host passes the guard exactly if the entries stand for it.** The text that is put together from
the entries is read as an expression that is found in the host exactly if it is a name of some entry,
alone or with a port: the entry itself, or the domain behind its dot, with or without one label of
letters, digits, `_` and hyphens in front. Such a host is recorded, and the request goes on; any other
one is refused. -/
theorem host_passes_exactly {entries : List String} {request : Request} {host : String}
    (listed : entries ≠ []) (single : request.headers.single "Host" = .value host)
    (ascii : ∀ c ∈ host.toList, c.toNat < 0x80) (chain : Chain World) (response : Response) :
    (∃ expression, read? (matcherText entries) = some expression ∧
      (expression.Found host.toList ↔
        Designates IsAsciiLabelChar (fun c => c.isDigit = true) entries host.toList)) ∧
    (Designates IsAsciiLabelChar (fun c => c.isDigit = true) entries host.toList →
      Guard.host entries chain response request =
        chain.proceed response { request with host := some host }) ∧
    (¬ Designates IsAsciiLabelChar (fun c => c.isDigit = true) entries host.toList →
      Guard.host entries chain response request =
        .done ⟨.error (refusal ("Host " ++ host ++ " is not allowed")), response, request⟩) := by
  have allowed : hostAllowed entries host = true ↔ _ :=
    hostAllowed_iff.trans (designates_ascii_iff ascii)
  refine ⟨⟨matcher entries, read?_matcherText listed,
    found_matcher_iff.trans (designates_ascii_iff ascii)⟩, fun designated => ?_, fun foreign => ?_⟩
  · have passed : (checkHost entries request.headers : Except (Fault World) String) = .ok host := by
      simp [checkHost, single, allowed.mpr designated]
    rw [Guard.host, passed]
  · have refused : (checkHost entries request.headers : Except (Fault World) String) =
        .error (refusal ("Host " ++ host ++ " is not allowed")) := by
      simp [checkHost, single, listed, allowed, foreign]
    rw [Guard.host, refused]

/-- A request with a host. -/
def askingFor (host : String) : Request :=
  .make .get .asterisk (Headers.empty.append "Host" host) []

/-- A chain at its end, which repeats its response. -/
def lastLink : Chain Unit :=
  ⟨0, fun response request => .done ⟨.ok (), response, request⟩⟩

/-- One label in front of a domain passes with a port, two do not. -/
theorem host_passes_below_domain :
    [".example.com", "a+b"] ≠ [] ∧
    (askingFor "api.example.com:80").headers.single "Host" = .value "api.example.com:80" ∧
    (askingFor "a.b.example.com").headers.single "Host" = .value "a.b.example.com" ∧
    Guard.host [".example.com", "a+b"] lastLink default (askingFor "api.example.com:80") =
      lastLink.proceed default
        { askingFor "api.example.com:80" with host := some "api.example.com:80" } ∧
    Guard.host [".example.com", "a+b"] lastLink default (askingFor "a.b.example.com") =
      .done ⟨.error (refusal "Host a.b.example.com is not allowed"), default,
        askingFor "a.b.example.com"⟩ := by
  have ported : (askingFor "api.example.com:80").headers.single "Host" =
    .value "api.example.com:80" := by decide +kernel
  have deep : (askingFor "a.b.example.com").headers.single "Host" = .value "a.b.example.com" := by
    decide +kernel
  have ascii {chars : List Char} (each : (chars.all fun c => c.toNat < 0x80) = true) :
      ∀ c ∈ chars, c.toNat < 0x80 :=
    fun c member => of_decide_eq_true (List.all_eq_true.mp each c member)
  refine ⟨List.cons_ne_nil _ _, ported, deep, ?_, ?_⟩
  · refine (host_passes_exactly (List.cons_ne_nil _ _) ported (ascii (by decide +kernel)) lastLink
      default).2.1 ?_
    refine ⟨".example.com", List.mem_cons_self, "api.example.com".toList, ?_, ?_⟩
    · have label : ("api".toList.all fun c => decide (IsAsciiLabelChar c)) = true := by
        decide +kernel
      exact @StandsFor.below _ "example.com".toList "api".toList (by decide)
        fun c member => of_decide_eq_true (List.all_eq_true.mp label c member)
    · have port : "80".toList.all Char.isDigit = true := by decide +kernel
      exact .inr ⟨"80".toList, by decide, List.all_eq_true.mp port, rfl⟩
  · have plain := ascii (by decide +kernel :
      ("a.b.example.com".toList.all fun c => c.toNat < 0x80) = true)
    refine (host_passes_exactly (List.cons_ne_nil _ _) deep plain lastLink default).2.2 ?_
    rw [← designates_ascii_iff plain, ← hostAllowed_iff]
    decide +kernel

end HttpService.Guard
