import ColumnFilter.Json.Document
import ColumnFilter.Proofs.Json.Numeral

set_option autoImplicit false

/-!
# Compact text reads back as the document of its tree

A written string is cut into one piece for each of its characters, and the pieces join to
the string. So the tokens of a written tree build its `document`, in which every container
is closed and every string has a reading; nothing is left of the text.
-/

namespace ColumnFilter.Json

/-! ## Strings -/

namespace Piece

/-- The piece that a written character is read as. Controls without a letter of their own
are read as code units. -/
def written (c : Char) : Piece :=
  if c ∈ ['\x08', '\x0c', '\n', '\r', '\t'] then .char c
  else if c.toNat < 0x20 then .unit c.toNat
  else .char c

theorem hexDigit?_digitChar {digit : Nat} (small : digit < 16) :
    hexDigit? (Nat.digitChar digit) = some digit := by
  have all : ∀ digit < 16, hexDigit? (Nat.digitChar digit) = some digit := by decide
  exact all digit small

theorem lex?_escaped {letter c : Char} (notUnit : letter ≠ 'u') (meaning : escaped? letter = some c)
    (text : List Char) :
    lex? ('\\' :: letter :: text) = (lex? text).map fun read => (.char c :: read.1, read.2) := by
  rw [lex?]
  · rw [meaning]
    cases lex? text <;> rfl
  · intro a b c d rest isUnit
    exact absurd isUnit notUnit

theorem lex?_unit {a b c d : Char} {code : Nat} (meaning : hexUnit? a b c d = some code)
    (text : List Char) :
    lex? ('\\' :: 'u' :: a :: b :: c :: d :: text) =
      (lex? text).map fun read => (.unit code :: read.1, read.2) := by
  rw [lex?, meaning]
  cases lex? text <;> rfl

theorem lex?_plain {c : Char} (notQuote : c ≠ '"') (notBackslash : c ≠ '\\')
    (printed : ¬ c.toNat < 0x20) (text : List Char) :
    lex? (c :: text) = (lex? text).map fun read => (.char c :: read.1, read.2) := by
  rw [lex?, if_neg printed]
  · cases lex? text <;> rfl
  · exact notQuote
  · intro a b c d rest isEscape
    exact absurd isEscape notBackslash
  · intro letter rest isEscape
    exact absurd isEscape notBackslash

theorem lex?_writeChar (c : Char) (text : List Char) :
    lex? (writeChar c ++ text) = (lex? text).map fun read => (written c :: read.1, read.2) := by
  unfold writeChar
  split
  · exact lex?_escaped (by decide) rfl text
  · exact lex?_escaped (by decide) rfl text
  · exact lex?_escaped (by decide) rfl text
  · exact lex?_escaped (by decide) rfl text
  · exact lex?_escaped (by decide) rfl text
  · exact lex?_escaped (by decide) rfl text
  · exact lex?_escaped (by decide) rfl text
  next notQuote notBackslash notB notF notN notR notT =>
    have noLetter : c ∉ ['\x08', '\x0c', '\n', '\r', '\t'] := by
      simp only [List.mem_cons, List.not_mem_nil, or_false, not_or]
      exact ⟨notB, notF, notN, notR, notT⟩
    split
    next control =>
      have high : hexDigit? (Nat.digitChar (c.toNat / 16)) = some (c.toNat / 16) :=
        hexDigit?_digitChar (by omega)
      have low : hexDigit? (Nat.digitChar (c.toNat % 16)) = some (c.toNat % 16) :=
        hexDigit?_digitChar (by omega)
      have zero : hexDigit? '0' = some 0 := by decide
      have code : hexUnit? '0' '0' (Nat.digitChar (c.toNat / 16)) (Nat.digitChar (c.toNat % 16)) =
          some c.toNat := by
        simp only [hexUnit?, high, low, zero, Option.bind_eq_bind, Option.bind_some,
          Option.pure_def, Option.some.injEq]
        omega
      rw [written, if_neg noLetter, if_pos control]
      exact lex?_unit code text
    next printed =>
      rw [written, if_neg noLetter, if_neg printed]
      exact lex?_plain notQuote notBackslash printed text

theorem lex?_flatMap_writeChar (chars rest : List Char) :
    lex? (chars.flatMap writeChar ++ '"' :: rest) = some (chars.map written, rest) := by
  induction chars with
  | nil => rfl
  | cons c more ih =>
      rw [List.flatMap_cons, List.append_assoc, lex?_writeChar, ih]
      rfl

theorem chars?_unit_cons {code : Nat} (low : code < 0xd800) (rest : List Piece) :
    chars? (.unit code :: rest) = (chars? rest).map (Char.ofNat code :: ·) := by
  have notLeading : isLeading code = false := by
    simp only [isLeading, Bool.and_eq_false_iff, decide_eq_false_iff_not]
    omega
  have notTrailing : isTrailing code = false := by
    simp only [isTrailing, Bool.and_eq_false_iff, decide_eq_false_iff_not]
    omega
  cases rest with
  | nil => simp [chars?, notLeading, notTrailing]
  | cons piece more =>
      cases piece with
      | char c => simp [chars?, notLeading, notTrailing]
      | unit second => simp [chars?, notLeading, notTrailing]

theorem chars?_written_cons (c : Char) (rest : List Piece) :
    chars? (written c :: rest) = (chars? rest).map (c :: ·) := by
  unfold written
  split
  · rw [chars?]
  · split
    next control =>
      rw [chars?_unit_cons (by omega), Char.ofNat_toNat]
    · rw [chars?]

theorem chars?_map_written (chars : List Char) : chars? (chars.map written) = some chars := by
  induction chars with
  | nil => rfl
  | cons c more ih => rw [List.map_cons, chars?_written_cons, ih, Option.map_some]

end Piece

/-! ## Tokens -/

namespace Token

theorem lex_of_next {c : Char} {text rest : List Char} {token : Token}
    (notBlank : isBlank c = false) (read : next c text = (token, rest)) :
    lex (c :: text) = token :: lex rest := by
  rw [lex, notBlank, read]
  rfl

theorem lex_null (rest : List Char) : lex ('n' :: 'u' :: 'l' :: 'l' :: rest) = .null :: lex rest :=
  lex_of_next rfl rfl

theorem lex_true (rest : List Char) :
    lex ('t' :: 'r' :: 'u' :: 'e' :: rest) = .bool true :: lex rest :=
  lex_of_next rfl rfl

theorem lex_false (rest : List Char) :
    lex ('f' :: 'a' :: 'l' :: 's' :: 'e' :: rest) = .bool false :: lex rest :=
  lex_of_next rfl rfl

theorem lex_openArray (rest : List Char) : lex ('[' :: rest) = .openArray :: lex rest :=
  lex_of_next rfl rfl

theorem lex_closeArray (rest : List Char) : lex (']' :: rest) = .closeArray :: lex rest :=
  lex_of_next rfl rfl

theorem lex_openObject (rest : List Char) : lex ('\x7b' :: rest) = .openObject :: lex rest :=
  lex_of_next rfl rfl

theorem lex_closeObject (rest : List Char) : lex ('\x7d' :: rest) = .closeObject :: lex rest :=
  lex_of_next rfl rfl

theorem lex_comma (rest : List Char) : lex (',' :: rest) = .comma :: lex rest :=
  lex_of_next rfl rfl

theorem lex_colon (rest : List Char) : lex (':' :: rest) = .colon :: lex rest :=
  lex_of_next rfl rfl

theorem lex_writeString (s : String) (rest : List Char) :
    lex (writeString s ++ rest) = .string (some s) :: lex rest := by
  have pieces := Piece.lex?_flatMap_writeChar s.toList rest
  have written : writeString s ++ rest = '"' :: (s.toList.flatMap writeChar ++ '"' :: rest) := by
    simp [writeString]
  rw [written]
  apply lex_of_next rfl
  simp only [next, pieces, Piece.chars?_map_written, Option.map_some, String.ofList_toList]

theorem next_of_number {c : Char} (starts : c = '-' ∨ c.isDigit = true) (text : List Char) :
    next c text =
      match Numeral.lex? (c :: text) with
      | some (n, rest) => (.numeral n, rest)
      | none => (.invalid, []) := by
  unfold next
  split <;> first | rfl | exact absurd starts (by decide)

theorem lex_write (n : Number) {rest : List Char} (stops : Numeral.Stops rest) :
    lex (n.write ++ rest) = .numeral n.numeral :: lex rest := by
  have lexed := n.lex?_write stops
  obtain ⟨c, more, written, starts⟩ := n.exists_cons_write
  rw [written, List.cons_append] at lexed ⊢
  have notBlank : isBlank c = false := by
    rcases starts with rfl | digit
    · rfl
    · apply Bool.eq_false_iff.mpr
      intro blank
      simp only [isBlank, Bool.or_eq_true, beq_iff_eq, or_assoc] at blank
      rcases blank with rfl | rfl | rfl | rfl <;> revert digit <;> decide
  apply lex_of_next notBlank
  rw [next_of_number starts, lexed]

end Token

/-! ## Documents -/

mutual

/-- The document that the text of a tree spells. -/
def document : Json → Document
  | .null => .null
  | .bool b => .bool b
  | .number n => .numeral n.numeral
  | .string s => .string (some s)
  | .array items => .array (documents items) true
  | .object members => .object (memberDocuments members) true
termination_by structural json => json

def documents : List Json → List Document
  | [] => []
  | item :: rest => document item :: documents rest
termination_by structural items => items

def memberDocuments : List (String × Json) → List (Option String × Document)
  | [] => []
  | (key, value) :: rest => (some key, document value) :: memberDocuments rest
termination_by structural members => members

end

namespace Document

theorem scan_step {token : Token} {stage next : Stage} {frames around : List Frame}
    (stepped : step? token stage frames = some (next, around)) (tokens : List Token) :
    scan (token :: tokens) stage frames = scan tokens next around := by
  cases stage with
  | done document =>
      cases frames with
      | nil => cases stepped
      | cons frame outer => rw [scan, stepped]; nofun
  | _ => rw [scan, stepped]; nofun

/-- The first item of an array is read as any value is. -/
theorem scan_firstItem {token : Token} {stage : Stage} (starts : start? token = some stage)
    (tokens : List Token) (frames : List Frame) :
    scan (token :: tokens) .firstItem frames =
      scan (token :: tokens) .value (.array [] :: frames) := by
  have notClosing : token ≠ .closeArray := by
    rintro rfl
    cases starts
  have asItem : step? token .firstItem frames = some (stage, .array [] :: frames) := by
    simp only [step?, notClosing, starts, ↓reduceIte, Option.map_some]
  have asValue : step? token .value (.array [] :: frames) = some (stage, .array [] :: frames) := by
    simp only [step?, starts, Option.map_some]
  rw [scan_step asItem, scan_step asValue]

end Document

theorem stops_comma (rest : List Char) : Numeral.Stops (',' :: rest) := by
  intro c first
  cases Option.mem_some.mp first
  decide

theorem stops_closeArray (rest : List Char) : Numeral.Stops (']' :: rest) := by
  intro c first
  cases Option.mem_some.mp first
  decide

theorem stops_closeObject (rest : List Char) : Numeral.Stops ('\x7d' :: rest) := by
  intro c first
  cases Option.mem_some.mp first
  decide

theorem intercalate_comma_cons (first : List Char) (texts : List (List Char)) :
    [','].intercalate (first :: texts) = first ++ texts.flatMap (',' :: ·) := by
  induction texts generalizing first with
  | nil => simp [List.intercalate]
  | cons second rest ih =>
      have later := ih second
      simp only [List.intercalate, List.intersperse_cons_cons, List.flatten_cons] at later ⊢
      rw [later]
      simp

/-- The texts of the items behind the first, and the end of their array. -/
def itemTail (items : List Json) (rest : List Char) : List Char :=
  (encodeItems items).flatMap (',' :: ·) ++ ']' :: rest

/-- The texts of the members behind the first, and the end of their object. -/
def memberTail (members : List (String × Json)) (rest : List Char) : List Char :=
  ((encodeMembers members).map writeMember).flatMap (',' :: ·) ++ '\x7d' :: rest

theorem itemTail_cons (item : Json) (items : List Json) (rest : List Char) :
    itemTail (item :: items) rest = ',' :: (encodeTree item ++ itemTail items rest) := by
  simp [itemTail, encodeItems]

theorem memberTail_cons (key : String) (value : Json) (members : List (String × Json))
    (rest : List Char) :
    memberTail ((key, value) :: members) rest =
      ',' :: (writeString key ++ ':' :: (encodeTree value ++ memberTail members rest)) := by
  simp [memberTail, encodeMembers, writeMember]

theorem encodeTree_array_nil (rest : List Char) :
    encodeTree (.array []) ++ rest = '[' :: ']' :: rest := by
  simp [encodeTree, encodeItems, Encoding.array, List.intercalate]

theorem encodeTree_array_cons (item : Json) (items : List Json) (rest : List Char) :
    encodeTree (.array (item :: items)) ++ rest =
      '[' :: (encodeTree item ++ itemTail items rest) := by
  simp [encodeTree, encodeItems, Encoding.array, intercalate_comma_cons, itemTail]

theorem encodeTree_object_nil (rest : List Char) :
    encodeTree (.object []) ++ rest = '\x7b' :: '\x7d' :: rest := by
  simp [encodeTree, encodeMembers, Encoding.object, List.intercalate]

theorem encodeTree_object_cons (key : String) (value : Json) (members : List (String × Json))
    (rest : List Char) :
    encodeTree (.object ((key, value) :: members)) ++ rest =
      '\x7b' :: (writeString key ++ ':' :: (encodeTree value ++ memberTail members rest)) := by
  simp [encodeTree, encodeMembers, Encoding.object, intercalate_comma_cons, memberTail,
    writeMember]

theorem stops_itemTail (items : List Json) (rest : List Char) :
    Numeral.Stops (itemTail items rest) := by
  cases items with
  | nil => exact stops_closeArray rest
  | cons item items => exact itemTail_cons item items rest ▸ stops_comma _

theorem stops_memberTail (members : List (String × Json)) (rest : List Char) :
    Numeral.Stops (memberTail members rest) := by
  cases members with
  | nil => exact stops_closeObject rest
  | cons member members => exact memberTail_cons member.1 member.2 members rest ▸ stops_comma _

theorem exists_start (json : Json) {rest : List Char} (stops : Numeral.Stops rest) :
    ∃ token stage more, Token.lex (encodeTree json ++ rest) = token :: more ∧
      Document.start? token = some stage := by
  cases json with
  | null => exact ⟨_, _, _, Token.lex_null rest, rfl⟩
  | bool b =>
      cases b with
      | false => exact ⟨_, _, _, Token.lex_false rest, rfl⟩
      | true => exact ⟨_, _, _, Token.lex_true rest, rfl⟩
  | number n => exact ⟨_, _, _, Token.lex_write n stops, rfl⟩
  | string s => exact ⟨_, _, _, Token.lex_writeString s rest, rfl⟩
  | array items =>
      cases items with
      | nil => exact ⟨_, _, _, encodeTree_array_nil rest ▸ Token.lex_openArray _, rfl⟩
      | cons item items =>
          exact ⟨_, _, _, encodeTree_array_cons item items rest ▸ Token.lex_openArray _, rfl⟩
  | object members =>
      cases members with
      | nil => exact ⟨_, _, _, encodeTree_object_nil rest ▸ Token.lex_openObject _, rfl⟩
      | cons member members =>
          exact ⟨_, _, _, encodeTree_object_cons member.1 member.2 members rest ▸
            Token.lex_openObject _, rfl⟩

mutual

/-- Reading the text of a tree leads from the place of a value behind it, whatever containers
are open and whatever follows. -/
theorem scan_encodeTree : ∀ (json : Json) {rest : List Char}, Numeral.Stops rest →
    ∀ frames : List Frame,
      Document.scan (Token.lex (encodeTree json ++ rest)) .value frames =
        Document.scan (Token.lex rest) (.done json.document) frames
  | .null, rest, _, frames => by
      have text : encodeTree .null ++ rest = 'n' :: 'u' :: 'l' :: 'l' :: rest := rfl
      rw [text, Token.lex_null, Document.scan_step rfl]
      rfl
  | .bool b, rest, _, frames => by
      cases b with
      | false =>
          have text : encodeTree (.bool false) ++ rest = 'f' :: 'a' :: 'l' :: 's' :: 'e' :: rest :=
            rfl
          rw [text, Token.lex_false, Document.scan_step rfl]
          rfl
      | true =>
          have text : encodeTree (.bool true) ++ rest = 't' :: 'r' :: 'u' :: 'e' :: rest := rfl
          rw [text, Token.lex_true, Document.scan_step rfl]
          rfl
  | .number n, rest, stops, frames => by
      have text : encodeTree (.number n) ++ rest = n.write ++ rest := rfl
      rw [text, Token.lex_write n stops, Document.scan_step rfl]
      rfl
  | .string s, rest, _, frames => by
      have text : encodeTree (.string s) ++ rest = writeString s ++ rest := rfl
      rw [text, Token.lex_writeString, Document.scan_step rfl]
      rfl
  | .array [], rest, _, frames => by
      rw [encodeTree_array_nil, Token.lex_openArray, Token.lex_closeArray,
        Document.scan_step rfl, Document.scan_step rfl]
      rfl
  | .array (item :: items), rest, _, frames => by
      have stops := stops_itemTail items rest
      obtain ⟨token, stage, more, lexed, starts⟩ := exists_start item stops
      rw [encodeTree_array_cons, Token.lex_openArray, Document.scan_step rfl, lexed,
        Document.scan_firstItem starts, ← lexed, scan_encodeTree item stops,
        scan_itemTail items]
      rfl
  | .object [], rest, _, frames => by
      rw [encodeTree_object_nil, Token.lex_openObject, Token.lex_closeObject,
        Document.scan_step rfl, Document.scan_step rfl]
      rfl
  | .object ((key, value) :: members), rest, _, frames => by
      rw [encodeTree_object_cons, Token.lex_openObject, Token.lex_writeString, Token.lex_colon,
        Document.scan_step rfl, Document.scan_step rfl, Document.scan_step rfl,
        scan_encodeTree value (stops_memberTail members rest), scan_memberTail members]
      rfl

/-- Reading the items behind an item closes their array. -/
theorem scan_itemTail : ∀ (items : List Json) {rest : List Char} (latest : Document)
    (before : List Document) (frames : List Frame),
      Document.scan (Token.lex (itemTail items rest)) (.done latest) (.array before :: frames) =
        Document.scan (Token.lex rest)
          (.done (.array ((latest :: before).reverse ++ documents items) true)) frames
  | [], rest, latest, before, frames => by
      have text : itemTail [] rest = ']' :: rest := rfl
      rw [text, Token.lex_closeArray, Document.scan_step rfl, documents, List.append_nil]
  | item :: items, rest, latest, before, frames => by
      rw [itemTail_cons, Token.lex_comma, Document.scan_step rfl,
        scan_encodeTree item (stops_itemTail items rest), scan_itemTail items, documents]
      simp only [List.reverse_cons, List.append_assoc, List.cons_append, List.nil_append]

/-- Reading the members behind a member closes their object. -/
theorem scan_memberTail : ∀ (members : List (String × Json)) {rest : List Char}
    (latest : Document) (before : List (Option String × Document)) (key : Option String)
    (frames : List Frame),
      Document.scan (Token.lex (memberTail members rest)) (.done latest)
          (.object before key :: frames) =
        Document.scan (Token.lex rest)
          (.done (.object (((key, latest) :: before).reverse ++ memberDocuments members) true))
          frames
  | [], rest, latest, before, key, frames => by
      have text : memberTail [] rest = '\x7d' :: rest := rfl
      rw [text, Token.lex_closeObject, Document.scan_step rfl, memberDocuments, List.append_nil]
  | (name, value) :: members, rest, latest, before, key, frames => by
      rw [memberTail_cons, Token.lex_comma, Token.lex_writeString, Token.lex_colon,
        Document.scan_step rfl, Document.scan_step rfl, Document.scan_step rfl,
        scan_encodeTree value (stops_memberTail members rest),
        scan_memberTail members, memberDocuments]
      simp only [List.reverse_cons, List.append_assoc, List.cons_append, List.nil_append]

end

/-- The text of a tree is read as the document of the tree, and nothing is left of it. -/
theorem documentOfText_text (json : Json) : Document.ofText (text json) = (json.document, []) := by
  have scanned := scan_encodeTree json Numeral.stops_nil []
  rw [List.append_nil] at scanned
  have chars : (text json).toList = encodeTree json := String.toList_ofList
  rw [Document.ofText, chars, scanned, Token.lex, Document.scan]

theorem decodeText_text {α : Type} (decode : Document → Except Error α) (json : Json) :
    decodeText decode (text json) = decode json.document := by
  rw [decodeText, documentOfText_text]
  change (decode json.document >>= pure) = decode json.document
  cases decode json.document <;> rfl

end ColumnFilter.Json
