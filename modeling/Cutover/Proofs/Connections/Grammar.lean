import Cutover.Proofs.Connections.RoundTrip
import Mathlib.Data.List.Forall2
import Mathlib.Data.Nat.Digits.Defs

set_option autoImplicit false

namespace Cutover

namespace Text

/-- One or more decimal digits, the most significant first, and the number that they denote. -/
structure Numeral (ds : List Char) (n : Nat) : Prop where
  nonempty : ds ≠ []
  digits : ∀ c ∈ ds, '0' ≤ c ∧ c ≤ '9'
  denotes : Nat.ofDigits 10 (ds.map fun c => c.toNat - '0'.toNat).reverse = n

variable {ds text : List Char} {n : Nat}

theorem value_eq_ofDigits (ds : List Char) :
    value ds = Nat.ofDigits 10 (ds.map fun c => c.toNat - '0'.toNat).reverse := by
  induction ds using List.reverseRecOn with
  | nil => rfl
  | append_singleton ds c ih =>
    rw [value_append_singleton, ih, List.map_append, List.reverse_append, List.map_singleton,
      List.reverse_singleton, List.singleton_append, Nat.ofDigits_cons, digitValue]
    exact Nat.add_comm _ _

theorem number?_eq_some_iff : number? ds = some n ↔ Numeral ds n := by
  have all : ds.all isDigit = true ↔ ∀ c ∈ ds, '0' ≤ c ∧ c ≤ '9' := by
    simp only [List.all_eq_true, isDigit, Bool.and_eq_true, decide_eq_true_eq]
  rw [number?, value_eq_ofDigits]
  constructor
  · intro read
    split at read
    · next numeral => exact ⟨numeral.1, all.1 numeral.2, Option.some.inj read⟩
    · cases read
  · rintro ⟨nonempty, digits, rfl⟩
    exact if_pos ⟨nonempty, all.2 digits⟩

theorem Numeral.not_plus (numeral : Numeral ds n) (rest : List Char) : ds ≠ '+' :: rest := by
  rintro rfl
  exact absurd (numeral.digits '+' List.mem_cons_self) (by decide)

theorem unsigned?_eq_some_iff {limit : Nat} : unsigned? limit text = some n ↔
    n ≤ limit ∧ ∃ ds, Numeral ds n ∧ (text = ds ∨ text = '+' :: ds) := by
  by_cases signed : ∃ rest, text = '+' :: rest
  · obtain ⟨rest, rfl⟩ := signed
    have magnitude : unsigned? limit ('+' :: rest) = (number? rest).filter (· ≤ limit) := rfl
    rw [magnitude, Option.filter_eq_some_iff, number?_eq_some_iff, decide_eq_true_eq, and_comm]
    refine and_congr_right fun _ => ⟨fun numeral => ⟨rest, numeral, .inr rfl⟩, ?_⟩
    rintro ⟨ds, numeral, same | same⟩
    · exact absurd same.symm (numeral.not_plus rest)
    · rw [(List.cons.inj same).2]
      exact numeral
  · have plain : ∀ rest, text ≠ '+' :: rest := not_exists.1 signed
    have magnitude : unsigned? limit text = (number? text).filter (· ≤ limit) := by
      rw [unsigned?]
      exact plain
    rw [magnitude, Option.filter_eq_some_iff, number?_eq_some_iff, decide_eq_true_eq, and_comm]
    refine and_congr_right fun _ => ⟨fun numeral => ⟨text, numeral, .inl rfl⟩, ?_⟩
    rintro ⟨ds, numeral, same | same⟩
    · rw [same]
      exact numeral
    · exact absurd same (plain ds)

end Text

namespace Connection

open Cutover.Text

/-- A port in decimal digits, with leading zeros or not, after a plus sign or not. -/
def IsPort (text : List Char) (port : UInt16) : Prop :=
  ∃ ds, Numeral ds port.toNat ∧ (text = ds ∨ text = '+' :: ds)

/-- A piece that names a server; its address can have colons in it. -/
def Names (piece : List Char) (s : Server) : Prop :=
  s.address ≠ "" ∧ ∃ port, piece = s.address.toList ++ ':' :: port ∧ IsPort port s.port

/-- The reason for which a piece that names no server is refused. -/
inductive Misnames (piece : List Char) : String → Prop
  | missingPort (absent : ':' ∉ piece) :
      Misnames piece ("'" ++ String.ofList piece ++ "' has no port")
  | invalidPort {address port : List Char} (cut : piece = address ++ ':' :: port)
      (last : ':' ∉ port) (invalid : ∀ n, ¬IsPort port n) :
      Misnames piece ("'" ++ String.ofList piece ++ "' has an invalid port")
  | missingAddress {port : List Char} {n : UInt16} (cut : piece = ':' :: port)
      (valid : IsPort port n) : Misnames piece ("'" ++ String.ofList piece ++ "' has no address")

variable {piece port : List Char} {s : Server} {reason : String} {n : UInt16}

theorem IsPort.noColon (valid : IsPort port n) : ':' ∉ port := by
  obtain ⟨ds, numeral, same⟩ := valid
  have free : ':' ∉ ds := fun member => absurd (numeral.digits ':' member) (by decide)
  rcases same with rfl | rfl
  · exact free
  · simp [free]

theorem unsigned?_port : unsigned? 65535 port = some n.toNat ↔ IsPort port n := by
  rw [unsigned?_eq_some_iff, IsPort, and_iff_right]
  exact Nat.le_of_lt_succ n.toNat_lt

theorem exists_port_of_unsigned? {value : Nat} (read : unsigned? 65535 port = some value) :
    (UInt16.ofNat value).toNat = value ∧ IsPort port (UInt16.ofNat value) := by
  have bound := (unsigned?_eq_some_iff.1 read).1
  have same : (UInt16.ofNat value).toNat = value :=
    UInt16.toNat_ofNat_of_lt' (Nat.lt_of_le_of_lt bound (by decide))
  refine ⟨same, unsigned?_port.1 ?_⟩
  rw [same, read]

theorem readServer_of_names (names : Names piece s) : readServer piece = .ok s := by
  obtain ⟨nonempty, port, cut, valid⟩ := names
  have address : s.address.toList ≠ [] := fun empty => nonempty (String.toList_eq_nil_iff.1 empty)
  rw [readServer, cutLast?_eq_some_iff.2 ⟨cut, valid.noColon⟩]
  simp only [unsigned?_port.2 valid, address, if_false, String.ofList_toList, UInt16.ofNat_toNat]

theorem readServer_of_misnames (misnames : Misnames piece reason) :
    ∃ fault, readServer piece = .error fault ∧ fault.message = reason := by
  cases misnames with
  | missingPort absent =>
    refine ⟨.missingPort (String.ofList piece), ?_, rfl⟩
    rw [readServer, cutLast?_eq_none_iff.2 absent]
  | @invalidPort address port cut last invalid =>
    have unread : unsigned? 65535 port = none := by
      rw [Option.eq_none_iff_forall_ne_some]
      exact fun value read => invalid _ (exists_port_of_unsigned? read).2
    refine ⟨.invalidPort (String.ofList piece), ?_, rfl⟩
    rw [readServer, cutLast?_eq_some_iff.2 ⟨cut, last⟩]
    simp only [unread]
  | @missingAddress port n cut valid =>
    have found : cutLast? ':' piece = some ([], port) :=
      cutLast?_eq_some_iff.2 ⟨cut, valid.noColon⟩
    refine ⟨.missingAddress (String.ofList piece), ?_, rfl⟩
    rw [readServer, found]
    simp only [unsigned?_port.2 valid, if_true]

theorem names_or_misnames (piece : List Char) :
    (∃ s, Names piece s) ∨ ∃ reason, Misnames piece reason := by
  cases found : cutLast? ':' piece with
  | none => exact .inr ⟨_, .missingPort (cutLast?_eq_none_iff.1 found)⟩
  | some both =>
    obtain ⟨address, port⟩ := both
    obtain ⟨cut, last⟩ := cutLast?_eq_some_iff.1 found
    by_cases valid : ∃ n, IsPort port n
    · obtain ⟨n, valid⟩ := valid
      by_cases empty : address = []
      · subst empty
        exact .inr ⟨_, .missingAddress cut valid⟩
      · refine .inl ⟨⟨String.ofList address, n⟩, by simpa using empty, port, ?_, valid⟩
        rw [String.toList_ofList]
        exact cut
    · exact .inr ⟨_, .invalidPort cut last (not_exists.1 valid)⟩

variable {list : List (List Char)} {servers : List Server}

theorem readServers_cons (piece : List Char) (rest : List (List Char)) :
    readServers (piece :: rest) =
      (readServer piece).bind fun s => (readServers rest).map (s :: ·) := rfl

theorem readServers_of_names (named : List.Forall₂ Names list servers) :
    readServers list = .ok servers := by
  induction named with
  | nil => rfl
  | cons first _ ih =>
    rw [readServers_cons, readServer_of_names first, ih]
    rfl

theorem readServers_of_misnames {good rest : List (List Char)} {bad : List Char}
    (before : ∀ piece ∈ good, ∃ s, Names piece s) (misnames : Misnames bad reason) :
    ∃ fault, readServers (good ++ bad :: rest) = .error fault ∧ fault.message = reason := by
  induction good with
  | nil =>
    obtain ⟨fault, read, told⟩ := readServer_of_misnames misnames
    refine ⟨fault, ?_, told⟩
    rw [List.nil_append, readServers_cons, read]
    rfl
  | cons piece good ih =>
    obtain ⟨⟨s, names⟩, others⟩ := List.forall_mem_cons.1 before
    obtain ⟨fault, read, told⟩ := ih others
    refine ⟨fault, ?_, told⟩
    rw [List.cons_append, readServers_cons, readServer_of_names names, read]
    rfl

theorem named_or_misnamed (list : List (List Char)) :
    (∃ servers, List.Forall₂ Names list servers) ∨ ∃ good bad rest reason,
      list = good ++ bad :: rest ∧ (∀ piece ∈ good, ∃ s, Names piece s) ∧ Misnames bad reason := by
  induction list with
  | nil => exact .inl ⟨[], .nil⟩
  | cons piece rest ih =>
    rcases names_or_misnames piece with ⟨s, names⟩ | ⟨reason, misnames⟩
    · rcases ih with ⟨servers, named⟩ | ⟨good, bad, rest, reason, rfl, before, misnames⟩
      · exact .inl ⟨s :: servers, .cons names named⟩
      · exact .inr ⟨piece :: good, bad, rest, reason, rfl,
          List.forall_mem_cons.2 ⟨⟨s, names⟩, before⟩, misnames⟩
    · exact .inr ⟨[], piece, rest, reason, rfl, List.forall_mem_nil _, misnames⟩

/-- The word for each kind. -/
inductive Means : List Char → EnsembleKind → Prop
  | zookeeper : Means "zookeeper".toList .zookeeper
  | exhibitor : Means "exhibitor".toList .exhibitor

theorem means_iff {word : List Char} {kind : EnsembleKind} :
    Means word kind ↔ word = kind.name.toList := by
  constructor
  · rintro (_ | _) <;> rfl
  · rintro rfl
    cases kind with
    | zookeeper => exact .zookeeper
    | exhibitor => exact .exhibitor

/-- A text of a kind, the mark, hosts, and a tail that begins at the first slash. The hosts fall
into pieces between commas. -/
structure Composed (text : List Char) (kind : EnsembleKind) (list : List (List Char))
    (tail : List Char) : Prop where
  whole : ∃ word, Means word kind ∧ text = word ++ [':', '/', '/'] ++ joined ',' list ++ tail
  nonempty : list ≠ []
  noComma : ∀ piece ∈ list, ',' ∉ piece
  noSlash : '/' ∉ joined ',' list
  tail : tail = [] ∨ tail.head? = some '/'

/-- A text that spells a connection: each piece of the hosts that is not empty names a server. -/
def Spells (text : List Char) (c : Connection) : Prop :=
  ∃ list tail, Composed text c.kind list tail ∧
    List.Forall₂ Names (list.filter (· ≠ [])) c.servers ∧
      c.path = if tail = [] then none else some (String.ofList tail)

/-- The reason for which a text is refused. -/
inductive Refuses (text : List Char) : String → Prop
  | missingKind (absent : ¬[':', '/', '/'] <:+: text) :
      Refuses text "missing '<kind>://' prefix"
  /-- What stands before the first mark is the word for no kind. -/
  | unknownKind {word rest : List Char} (whole : text = word ++ [':', '/', '/'] ++ rest)
      (first : ¬[':', '/', '/'] <:+: word ++ [':', '/']) (unknown : ∀ kind, ¬Means word kind) :
      Refuses text ("unknown ensemble kind '" ++ String.ofList word ++ "'")
  | misnamed {kind : EnsembleKind} {list : List (List Char)} {tail : List Char}
      (composed : Composed text kind list tail) {good rest : List (List Char)} {bad : List Char}
      (split : list.filter (· ≠ []) = good ++ bad :: rest)
      (before : ∀ piece ∈ good, ∃ s, Names piece s) {reason : String}
      (misnames : Misnames bad reason) : Refuses text reason

variable {text tail : List Char} {kind : EnsembleKind} {c : Connection}

theorem Composed.read (composed : Composed text kind list tail) :
    Connection.read text = (readServers (list.filter (· ≠ []))).map fun servers =>
      ⟨kind, servers, if tail = [] then none else some (String.ofList tail)⟩ := by
  have cut : cutAt? mark text = some (kind.name.toList, joined ',' list ++ tail) := by
    obtain ⟨word, means, whole⟩ := composed.whole
    rw [whole, means_iff.1 means, List.append_assoc]
    exact cutAt?_append (noColon_name kind) (joined ',' list ++ tail)
  obtain ⟨hosts, rest⟩ := span_slash composed.noSlash composed.tail
  have found := pieces_joined composed.nonempty composed.noComma
  simp only [Connection.read, cut, readKind_name, hosts, rest, found]
  cases readServers (list.filter (· ≠ [])) with
  | error fault => rfl
  | ok servers => rfl

theorem readKind_of_unknown {word : List Char} (unknown : ∀ kind, ¬Means word kind) :
    readKind word = .error (.unknownKind (String.ofList word)) := by
  have apart : ∀ kind : EnsembleKind, String.ofList word ≠ kind.name := fun kind same =>
    unknown kind (means_iff.2 (by rw [← same, String.toList_ofList]))
  have zookeeper : String.ofList word ≠ "zookeeper" := apart .zookeeper
  have exhibitor : String.ofList word ≠ "exhibitor" := apart .exhibitor
  rw [readKind, EnsembleKind.ofName?, if_neg zookeeper, if_neg exhibitor]

theorem composed_cases (text : List Char) :
    (∃ kind list tail, Composed text kind list tail) ∨ ¬[':', '/', '/'] <:+: text ∨
      ∃ word rest, text = word ++ [':', '/', '/'] ++ rest ∧
        ¬[':', '/', '/'] <:+: word ++ [':', '/'] ∧ ∀ kind, ¬Means word kind := by
  cases found : cutAt? mark text with
  | none => exact .inr (.inl (cutAt?_eq_none_iff.1 found))
  | some both =>
    obtain ⟨word, rest⟩ := both
    obtain ⟨whole, first⟩ := (cutAt?_eq_some_iff (List.cons_ne_nil _ _)).1 found
    by_cases known : ∃ kind, Means word kind
    · obtain ⟨kind, means⟩ := known
      refine .inl ⟨kind, pieces ',' (rest.takeWhile (· ≠ '/')), rest.dropWhile (· ≠ '/'), ?_⟩
      refine ⟨⟨word, means, ?_⟩, pieces_ne_nil _ _, fun _ => not_mem_of_mem_pieces, ?_, ?_⟩
      · rw [joined_pieces, List.append_assoc, List.takeWhile_append_dropWhile]
        exact whole
      · rw [joined_pieces]
        intro slash
        have before := List.mem_takeWhile_imp slash
        simp at before
      · have stops := List.head?_dropWhile_not (· ≠ '/') rest
        cases tail : rest.dropWhile (· ≠ '/') with
        | nil => exact .inl rfl
        | cons d more =>
          rw [tail] at stops
          exact .inr (by simpa using stops)
    · exact .inr (.inr ⟨word, rest, whole, first, not_exists.1 known⟩)

theorem read_of_spells (spells : Spells text c) : Connection.read text = .ok c := by
  obtain ⟨list, tail, composed, servers, path⟩ := spells
  rw [composed.read, readServers_of_names servers, ← path]
  rfl

theorem read_of_refuses (refuses : Refuses text reason) :
    ∃ fault, Connection.read text = .error fault ∧ fault.message = reason := by
  cases refuses with
  | missingKind absent =>
    have uncut : cutAt? mark text = none := cutAt?_eq_none_iff.2 absent
    refine ⟨.missingKind, ?_, rfl⟩
    rw [Connection.read, uncut]
  | @unknownKind word rest whole first unknown =>
    have cut : cutAt? mark text = some (word, rest) :=
      (cutAt?_eq_some_iff (List.cons_ne_nil _ _)).2 ⟨whole, first⟩
    refine ⟨.unknownKind (String.ofList word), ?_, rfl⟩
    simp only [Connection.read, cut, readKind_of_unknown unknown]
    rfl
  | misnamed composed split before misnames =>
    obtain ⟨fault, read, told⟩ := readServers_of_misnames before misnames
    refine ⟨fault, ?_, told⟩
    rw [composed.read, split, read]
    rfl

theorem spells_or_refuses (text : List Char) :
    (∃ c, Spells text c) ∨ ∃ reason, Refuses text reason := by
  rcases composed_cases text with ⟨kind, list, tail, composed⟩ | absent | ⟨word, rest, cut⟩
  · rcases named_or_misnamed (list.filter (· ≠ [])) with
      ⟨servers, named⟩ | ⟨good, bad, rest, reason, split, before, misnames⟩
    · exact .inl ⟨⟨kind, servers, _⟩, list, tail, composed, named, rfl⟩
    · exact .inr ⟨reason, .misnamed composed split before misnames⟩
  · exact .inr ⟨_, .missingKind absent⟩
  · exact .inr ⟨_, .unknownKind cut.1 cut.2.1 cut.2.2⟩

theorem parse_of_spells {text : String} (spells : Spells text.toList c) : parse text = .ok c := by
  rw [parse, read_of_spells spells]

theorem parse_of_refuses {text : String} (refuses : Refuses text.toList reason) :
    parse text = .error (.invalidConnection text reason) := by
  obtain ⟨fault, read, told⟩ := read_of_refuses refuses
  rw [parse, read, ← told]

/-- Reading accepts exactly the texts that spell a connection, and gives that connection. Any other
text is refused with the text itself and the reason for which it is. -/
theorem parse_grammar (text : String) :
    (∀ c, parse text = .ok c ↔ Spells text.toList c) ∧
      ∀ error, parse text = .error error ↔
        ∃ reason, Refuses text.toList reason ∧ error = .invalidConnection text reason := by
  constructor
  · intro c
    refine ⟨fun parsed => ?_, parse_of_spells⟩
    rcases spells_or_refuses text.toList with ⟨c', spells⟩ | ⟨reason, refuses⟩
    · obtain rfl := Except.ok.inj ((parse_of_spells spells).symm.trans parsed)
      exact spells
    · cases (parse_of_refuses refuses).symm.trans parsed
  · intro error
    constructor
    · intro refused
      rcases spells_or_refuses text.toList with ⟨c, spells⟩ | ⟨reason, refuses⟩
      · cases (parse_of_spells spells).symm.trans refused
      · have same := Except.error.inj (refused.symm.trans (parse_of_refuses refuses))
        exact ⟨reason, refuses, same⟩
    · rintro ⟨reason, refuses, rfl⟩
      exact parse_of_refuses refuses

/-- Empty pieces are skipped, and an address ends at the last colon. -/
example : parse "zookeeper://[::1]:+02181,,b:80/kafka" =
    .ok ⟨.zookeeper, [⟨"[::1]", 2181⟩, ⟨"b", 80⟩], some "/kafka"⟩ := by decide +kernel

end Connection

end Cutover
