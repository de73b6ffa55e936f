import Cutover.Ensemble.Connection.Reader
import Mathlib.Data.List.DropRight

set_option autoImplicit false

namespace Cutover

namespace Text

theorem mem_of_mem_pieces {sep : Char} {text piece : List Char} (member : piece ∈ pieces sep text)
    {c : Char} (inPiece : c ∈ piece) : c ∈ text := by
  induction text generalizing piece with
  | nil =>
    rw [pieces, List.mem_singleton] at member
    simp [member] at inPiece
  | cons first rest ih =>
    rw [pieces] at member
    split at member
    · rcases List.mem_cons.1 member with rfl | later
      · simp at inPiece
      · exact List.mem_cons_of_mem _ (ih later inPiece)
    · split at member
      · next nothing => exact absurd nothing (pieces_ne_nil sep rest)
      · next piece' others found =>
        rw [found] at ih
        rcases List.mem_cons.1 member with rfl | later
        · rcases List.mem_cons.1 inPiece with rfl | inRest
          · exact List.mem_cons_self
          · exact List.mem_cons_of_mem _ (ih List.mem_cons_self inRest)
        · exact List.mem_cons_of_mem _ (ih (List.mem_cons_of_mem _ later) inPiece)

theorem trimEnd_eq_rdropWhile (c : Char) (text : List Char) :
    trimEnd c text = text.rdropWhile (· = c) := rfl

theorem getLast?_trimEnd_ne (c : Char) (text : List Char) :
    (trimEnd c text).getLast? ≠ some c := by
  intro ends
  have nonempty : trimEnd c text ≠ [] := by
    intro empty
    simp [empty] at ends
  have last := List.rdropWhile_last_not (· = c) text nonempty
  rw [List.getLast?_eq_some_getLast nonempty, Option.some.injEq] at ends
  simp only [decide_eq_true_eq] at last
  exact last ends

theorem trimEnd_eq_self {c : Char} {text : List Char} (apart : text.getLast? ≠ some c) :
    trimEnd c text = text := by
  rw [trimEnd_eq_rdropWhile, List.rdropWhile_eq_self_iff]
  intro nonempty same
  rw [List.getLast?_eq_some_getLast nonempty] at apart
  exact apart (congrArg some (of_decide_eq_true same))

theorem trimEnd_ne_nil {c d : Char} {text : List Char} (member : d ∈ text) (apart : d ≠ c) :
    trimEnd c text ≠ [] := by
  rw [trimEnd_eq_rdropWhile, Ne, List.rdropWhile_eq_nil_iff]
  intro all
  exact apart (of_decide_eq_true (all d member))

theorem head?_trimEnd {c d : Char} {text : List Char} (first : text.head? = some d)
    (nonempty : trimEnd c text ≠ []) : (trimEnd c text).head? = some d := by
  obtain ⟨rest, whole⟩ : trimEnd c text <+: text := List.rdropWhile_prefix (· = c) text
  rw [← whole, List.head?_append_of_ne_nil _ nonempty] at first
  exact first

end Text

/-- A server whose text can be found in a list of servers again. -/
structure Server.Listed (s : Server) : Prop where
  nonempty : s.address ≠ ""
  noComma : ',' ∉ s.address.toList
  noSlash : '/' ∉ s.address.toList

namespace Connection

open Cutover.Text

/-- The paths that are written as they are: none, or a slash in front and none at the end. -/
def IsNormal (path : List Char) : Prop :=
  path = [] ∨ path.head? = some '/' ∧ path.getLast? ≠ some '/'

theorem isNormal_normalPath (path : Option (List Char)) : IsNormal (normalPath path) := by
  rcases path with _ | _ | ⟨first, rest⟩
  · exact .inl rfl
  · exact .inl rfl
  · have noSlash := getLast?_trimEnd_ne '/' (first :: rest)
    by_cases slash : first = '/'
    · have shape : normalPath (some (first :: rest)) = trimEnd '/' (first :: rest) := by
        simp [slash, normalPath]
      rw [shape]
      by_cases empty : trimEnd '/' (first :: rest) = []
      · exact .inl empty
      · have starts := head?_trimEnd (d := first) rfl empty
        exact .inr ⟨by rw [starts, slash], noSlash⟩
    · have shape : normalPath (some (first :: rest)) = '/' :: trimEnd '/' (first :: rest) := by
        simp [slash, normalPath]
      have nonempty : trimEnd '/' (first :: rest) ≠ [] := trimEnd_ne_nil List.mem_cons_self slash
      rw [shape]
      refine .inr ⟨rfl, ?_⟩
      rw [List.getLast?_cons_of_ne_nil nonempty]
      exact noSlash

theorem normalPath_eq_self {path : List Char} (normal : IsNormal path) :
    normalPath (some path) = path := by
  rcases normal with rfl | ⟨starts, ends⟩
  · rfl
  · obtain ⟨rest, rfl⟩ := List.head?_eq_some_iff.1 starts
    rw [normalPath, trimEnd_eq_self ends]

theorem isNormal_root (c : Connection) : IsNormal c.root := isNormal_normalPath _

theorem head?_root {c : Connection} (path : c.root ≠ []) : c.root.head? = some '/' := by
  rcases c.isNormal_root with empty | ⟨starts, -⟩
  · exact absurd empty path
  · exact starts

/-- The connection with its path in normal form; a path of the root is left out. -/
def normal (c : Connection) : Connection :=
  { c with path := if c.root = [] then none else some (String.ofList c.root) }

@[simp] theorem root_normal (c : Connection) : c.normal.root = c.root := by
  unfold normal
  split
  · next empty => exact empty.symm
  · simp only [root, Option.map_some, String.toList_ofList]
    exact normalPath_eq_self c.isNormal_root

@[simp] theorem text_normal (c : Connection) : c.normal.text = c.text := by
  rw [text, write, root_normal]
  rfl

theorem normal_eq_self_iff {c : Connection} :
    c.normal = c ↔ c.path = none ∨
      ∃ path, c.path = some path ∧ path.toList.head? = some '/' ∧
        path.toList.getLast? ≠ some '/' := by
  obtain ⟨kind, servers, path⟩ := c
  cases path with
  | none => simp [normal, root, normalPath]
  | some path =>
    constructor
    · intro same
      have pathSame := congrArg Connection.path same
      simp only [normal] at pathSame
      split at pathSame
      · simp at pathSame
      · next nonempty =>
        have written := String.toList_inj.2 (Option.some.inj pathSame)
        rw [String.toList_ofList] at written
        rcases isNormal_root ⟨kind, servers, some path⟩ with empty | ⟨starts, ends⟩
        · exact absurd empty nonempty
        · rw [written] at starts ends
          exact .inr ⟨path, rfl, starts, ends⟩
    · rintro (missing | ⟨same, found, starts, ends⟩)
      · simp at missing
      · obtain rfl := Option.some.inj found
        have rooted : root ⟨kind, servers, some path⟩ = path.toList :=
          normalPath_eq_self (.inr ⟨starts, ends⟩)
        have nonempty : path.toList ≠ [] := by
          intro empty
          simp [empty] at starts
        simp [normal, rooted, nonempty]

/-- All servers can be listed. -/
def Listable (c : Connection) : Prop := ∀ s ∈ c.servers, s.Listed

theorem not_mem_serverText {c : Char} {s : Server} (other : isDigit c = false) (apart : c ≠ ':')
    (free : c ∉ s.address.toList) : c ∉ serverText s := by
  have noDigit := not_mem_digits other s.port.toNat
  simp [serverText, free, apart, noDigit]

theorem readServer_serverText {s : Server} (listed : s.Listed) :
    readServer (serverText s) = .ok s := by
  have cut : cutLast? ':' (serverText s) = some (s.address.toList, digits s.port.toNat) :=
    cutLast?_eq_some_iff.2 ⟨rfl, not_mem_digits rfl _⟩
  have port : unsigned? 65535 (digits s.port.toNat) = some s.port.toNat := by
    have bound : s.port.toNat ≤ 65535 := Nat.le_of_lt_succ s.port.toNat_lt
    rw [unsigned?_digits, if_pos bound]
  have address : s.address.toList ≠ [] := by
    intro empty
    exact listed.nonempty (String.toList_eq_nil_iff.1 empty)
  simp [readServer, cut, port, listed.nonempty]

theorem readServers_map_serverText {servers : List Server} (listed : ∀ s ∈ servers, s.Listed) :
    readServers (servers.map serverText) = .ok servers := by
  induction servers with
  | nil => rfl
  | cons s rest ih =>
    have first := readServer_serverText (listed s List.mem_cons_self)
    have later := ih fun s' member => listed s' (List.mem_cons_of_mem _ member)
    rw [List.map_cons, readServers, first, later]
    rfl

theorem listed_of_readServer {piece : List Char} {s : Server} (found : readServer piece = .ok s)
    (noComma : ',' ∉ piece) (noSlash : '/' ∉ piece) : s.Listed := by
  unfold readServer at found
  split at found
  · simp at found
  · next address port cut =>
    obtain ⟨whole, -⟩ := cutLast?_eq_some_iff.1 cut
    rw [whole, List.mem_append, not_or] at noComma noSlash
    split at found
    · simp at found
    · split at found
      · simp at found
      · next nonempty =>
        obtain rfl := Except.ok.inj found
        exact ⟨by simpa using nonempty, by simpa using noComma.1, by simpa using noSlash.1⟩

theorem exists_piece_of_readServers {list : List (List Char)} {servers : List Server}
    (found : readServers list = .ok servers) :
    ∀ s ∈ servers, ∃ piece ∈ list, readServer piece = .ok s := by
  induction list generalizing servers with
  | nil =>
    obtain rfl := Except.ok.inj found
    simp
  | cons piece rest ih =>
    rw [readServers] at found
    cases first : readServer piece with
    | error fault => simp [first, bind, Except.bind] at found
    | ok s =>
      cases later : readServers rest with
      | error fault => simp [first, later, bind, Except.bind] at found
      | ok others =>
        have whole : s :: others = servers := by
          simpa [first, later, bind, Except.bind, pure, Except.pure] using found
        intro s' member
        rw [← whole] at member
        rcases List.mem_cons.1 member with rfl | inOthers
        · exact ⟨piece, List.mem_cons_self, first⟩
        · obtain ⟨piece', inRest, read⟩ := ih later s' inOthers
          exact ⟨piece', List.mem_cons_of_mem _ inRest, read⟩

theorem not_mem_joined {sep c : Char} (apart : c ≠ sep) {list : List (List Char)}
    (free : ∀ piece ∈ list, c ∉ piece) : c ∉ joined sep list := by
  induction list with
  | nil => simp [joined]
  | cons piece rest ih =>
    have freePiece := free piece List.mem_cons_self
    have freeRest := ih fun p member => free p (List.mem_cons_of_mem _ member)
    cases rest with
    | nil => exact freePiece
    | cons second more => simp [joined, freePiece, apart, freeRest]

variable {c : Connection}

theorem noSlash_serversText (listable : c.Listable) : '/' ∉ c.serversText := by
  apply not_mem_joined (by decide)
  intro piece member
  obtain ⟨s, inServers, rfl⟩ := List.mem_map.1 member
  exact not_mem_serverText rfl (by decide) (listable s inServers).noSlash

/-- The list of servers falls into their texts; that of no servers has one piece, which is empty. -/
theorem filter_pieces_serversText (listable : c.Listable) :
    (pieces ',' c.serversText).filter (· ≠ []) = c.servers.map serverText := by
  by_cases none : c.servers.map serverText = []
  · simp [serversText, none, joined, pieces]
  · have found : pieces ',' c.serversText = c.servers.map serverText := by
      apply pieces_joined none
      intro piece member
      obtain ⟨s, inServers, rfl⟩ := List.mem_map.1 member
      exact not_mem_serverText rfl (by decide) (listable s inServers).noComma
    rw [found, List.filter_eq_self]
    intro piece member
    obtain ⟨s, -, rfl⟩ := List.mem_map.1 member
    simp [serverText]

theorem readKind_name (kind : EnsembleKind) : readKind kind.name.toList = .ok kind := by
  cases kind <;> rfl

theorem noColon_name (kind : EnsembleKind) : ':' ∉ kind.name.toList := by
  cases kind <;> decide

theorem span_slash {hosts tail : List Char} (noSlash : '/' ∉ hosts)
    (begins : tail = [] ∨ tail.head? = some '/') :
    (hosts ++ tail).takeWhile (· ≠ '/') = hosts ∧ (hosts ++ tail).dropWhile (· ≠ '/') = tail := by
  have before : ∀ d ∈ hosts, decide (d ≠ '/') = true := by
    intro d member
    rw [decide_eq_true_eq]
    rintro rfl
    exact noSlash member
  rw [List.takeWhile_append_of_pos before, List.dropWhile_append_of_pos before]
  rcases begins with rfl | starts
  · simp
  · obtain ⟨rest, rfl⟩ := List.head?_eq_some_iff.1 starts
    simp

/-- A connection whose servers can be listed is read back up to the form of its path. -/
theorem read_write (listable : c.Listable) : read c.write = .ok c.normal := by
  have cut : cutAt? mark c.write = some (c.kind.name.toList, c.serversText ++ c.root) := by
    have found : cutAt? (':' :: ['/', '/'])
        (c.kind.name.toList ++ mark ++ (c.serversText ++ c.root)) = _ :=
      cutAt?_append (noColon_name c.kind) (c.serversText ++ c.root)
    rw [← List.append_assoc] at found
    exact found
  have servers := readServers_map_serverText listable
  rw [← filter_pieces_serversText listable] at servers
  -- The path begins where the servers end, at the first slash.
  have begins : c.root = [] ∨ c.root.head? = some '/' := or_iff_not_imp_left.2 head?_root
  obtain ⟨hosts, path⟩ := span_slash (noSlash_serversText listable) begins
  simp only [read, cut, readKind_name, hosts, path, servers]
  rfl

theorem parse_text (listable : c.Listable) : parse c.text = .ok c.normal := by
  rw [parse, text, String.toList_ofList, read_write listable]

theorem listable_of_read {text : List Char} (found : read text = .ok c) : c.Listable := by
  unfold read at found
  split at found
  · simp at found
  · next name rest cut =>
    cases kind : readKind name with
    | error fault => simp [kind, bind, Except.bind] at found
    | ok k =>
      cases servers : readServers
          ((pieces ',' (rest.takeWhile (· ≠ '/'))).filter (· ≠ [])) with
      | error fault =>
        simp only [kind, servers, bind, Except.bind] at found
        exact nomatch found
      | ok list =>
        have listSame : c.servers = list := by
          simp only [kind, servers, bind, Except.bind, pure, Except.pure] at found
          rw [← Except.ok.inj found]
        intro s member
        rw [listSame] at member
        obtain ⟨piece, inList, readPiece⟩ := exists_piece_of_readServers servers s member
        have inPieces := (List.mem_filter.1 inList).1
        have noComma := not_mem_of_mem_pieces inPieces
        have noSlash : '/' ∉ piece := by
          intro slash
          have before := List.mem_takeWhile_imp (mem_of_mem_pieces inPieces slash)
          simp at before
        exact listed_of_readServer readPiece noComma noSlash

theorem listable_of_parse {text : String} (found : parse text = .ok c) : c.Listable := by
  unfold parse at found
  split at found
  · next connection readText =>
    obtain rfl := Except.ok.inj found
    exact listable_of_read readText
  · simp at found

/-- Writing and reading back: what is read back has the kind, the servers, the path of the sessions
and the text of the connection that was written, and is that connection when its path was in normal
form; whatever is read can be written and read back; and paths have one normal form. -/
theorem round_trip :
    (∀ c : Connection, c.Listable → ∃ c', parse c.text = .ok c' ∧
      c'.kind = c.kind ∧ c'.servers = c.servers ∧ c'.root = c.root ∧ c'.text = c.text ∧
      (c' = c ↔ c.path = none ∨ ∃ path, c.path = some path ∧
        path.toList.head? = some '/' ∧ path.toList.getLast? ≠ some '/')) ∧
    (∀ text c, parse text = .ok c → c.Listable ∧ ∃ c', parse c.text = .ok c' ∧ c'.text = c.text) ∧
    (∀ c : Connection,
      (c.root = [] ∨ c.root.head? = some '/' ∧ c.root.getLast? ≠ some '/') ∧
      ({ c with path := some (String.ofList c.root) } : Connection).root = c.root) := by
  refine ⟨?written, ?accepted, ?paths⟩
  case written =>
    intro c listable
    exact ⟨c.normal, parse_text listable, rfl, rfl, root_normal c, text_normal c,
      normal_eq_self_iff⟩
  case accepted =>
    intro text c found
    have listable := listable_of_parse found
    exact ⟨listable, c.normal, parse_text listable, text_normal c⟩
  case paths =>
    intro c
    have fixed := normalPath_eq_self c.isNormal_root
    simp only [root, Option.map_some, String.toList_ofList] at fixed ⊢
    exact ⟨c.isNormal_root, fixed⟩

/-- Colons in an address and slashes after a relative path: the path comes back in normal form. -/
theorem round_trip_relative_path :
    let c : Connection := ⟨.exhibitor, [⟨"::1", 8080⟩, ⟨"+", 0⟩], some "a:b//"⟩
    c.Listable ∧ ∃ c', parse c.text = .ok c' ∧ c'.servers = c.servers ∧
      c'.root = ['/', 'a', ':', 'b'] ∧ c' ≠ c := by
  intro c
  have listable : c.Listable := by
    intro s member
    rcases List.mem_cons.1 member with rfl | member
    · exact ⟨by decide, by decide, by decide⟩
    · obtain rfl := List.mem_singleton.1 member
      exact ⟨by decide, by decide, by decide⟩
  have root : c.root = ['/', 'a', ':', 'b'] := by decide
  obtain ⟨c', found, -, servers, path, -, same⟩ := round_trip.1 c listable
  refine ⟨listable, c', found, servers, path.trans root, ?_⟩
  rw [Ne, same]
  simp [c]

end Connection

end Cutover
