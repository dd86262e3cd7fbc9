import RpcRace.HttpFraming

/-!
# Header fields

`parse_headers` and `parse_http_request` do not read a header line by line.
They look for the text `Content-Length:` or `Connection:` anywhere in the
buffer and read what stands behind the first one.  That is the field of this
name only if the text does not occur earlier: at the end of a longer field
name, in the value of another field, or in the start line.

`HeaderBlock` is a well-formed header as lines of names and values.  Both
functions read its fields exactly if what stands behind the first occurrence
reads like the field (`fields_read_iff_firstIsField`).  It does if none of the
lines before the field has the text in it (`firstIsField_of_unmistaken`).
-/

namespace RpcRace.HeaderFields

open RpcRace.Library.CString
open RpcRace.RpcConn
open RpcRace.RpcProxy
open RpcRace.HttpFraming

/-! ## Header blocks -/

/-- A byte that can stand in a line. -/
def isLineByte (byte : Byte) : Bool :=
  byte ≠ 0 && byte ≠ 13 && byte ≠ 10

/-- A line with a colon; `text` is everything behind the colon. -/
structure Field where
  name : Memory
  text : Memory
  nameClean : (name.all fun byte => isLineByte byte && byte ≠ 58) = true
  textClean : text.all isLineByte = true

def Field.line (field : Field) : Memory :=
  field.name ++ 58 :: field.text

/-- The value, without the blanks before it. -/
def Field.value (field : Field) : Memory :=
  field.text.dropWhile isBlank

/-- The name of the field is exactly this one, in any case. -/
def Field.isNamed (field : Field) (name : Memory) : Bool :=
  field.name.map toLower = name.map toLower

/-- `Content-Length`. -/
def lengthName : Memory := ascii "Content-Length"

/-- `Connection`. -/
def connectionName : Memory := ascii "Connection"

/-- A decimal number, which blanks may follow. -/
def isNumber (value : Memory) : Bool :=
  !(value.takeWhile isDigit).isEmpty && (value.dropWhile isDigit).all isBlank

/-- A start line and fields, with at most one of each of the two that are looked for. -/
structure HeaderBlock where
  startLine : Memory
  fields : List Field
  startClean : startLine.all isLineByte = true
  oneLength : (fields.filter fun field => field.isNamed lengthName).length ≤ 1
  oneConnection : (fields.filter fun field => field.isNamed connectionName).length ≤ 1
  numeric : ∀ field ∈ fields, field.isNamed lengthName = true → isNumber field.value = true

/-- Lines, each with its CR LF. -/
def render (lines : List Memory) : Memory :=
  lines.flatMap fun line => line ++ [13, 10]

/-- The bytes of a header block, up to the empty line at its end. -/
def HeaderBlock.bytes (block : HeaderBlock) : Memory :=
  render (block.startLine :: block.fields.map Field.line) ++ [13, 10]

/-- The field of this name. -/
def HeaderBlock.named (block : HeaderBlock) (name : Memory) : Option Field :=
  block.fields.find? fun field => field.isNamed name

/-- The decimal value of the field `Content-Length`, zero if it is absent. -/
def HeaderBlock.contentLength (block : HeaderBlock) : Nat :=
  match block.named lengthName with
  | none => 0
  | some field => decimal (field.value.takeWhile isDigit)

/-- The field `Connection` has a value that starts with `close`. -/
def HeaderBlock.connectionClose (block : HeaderBlock) : Bool :=
  match block.named connectionName with
  | none => false
  | some field => startsIgnoringCase (ascii "close") field.value

/-- What stands behind the first occurrence of a text in the lines, and all that follows it. -/
def behindFirst (text rest : Memory) : List Memory → Option Memory
  | [] => none
  | line :: lines =>
      match findIgnoringCase text line with
      | some position =>
          some (line.drop (position + text.length) ++ 13 :: 10 :: (render lines ++ rest))
      | none => behindFirst text rest lines

/-- What stands behind the first `name:` in any line of the block, with `tail` after the block. -/
def HeaderBlock.behind (block : HeaderBlock) (name tail : Memory) : Option Memory :=
  behindFirst (name ++ [58]) (13 :: 10 :: tail) (block.startLine :: block.fields.map Field.line)

/-- The number that stands there, zero if there is no such place. -/
def numberAt : Option Memory → Nat
  | none => 0
  | some text => strtoull (text.dropWhile isBlank)

/-- The word `close` stands there. -/
def closeAt : Option Memory → Bool
  | none => false
  | some text => startsIgnoringCase (ascii "close") (text.dropWhile isBlank)

/-- Where the two names occur first stands what the fields of these names say. -/
structure HeaderBlock.FirstIsField (block : HeaderBlock) (tail : Memory) : Prop where
  length : numberAt (block.behind lengthName tail) = block.contentLength
  connection : closeAt (block.behind connectionName tail) = block.connectionClose

/-- The lines before the field of this name, or all lines if there is no such field. -/
def HeaderBlock.linesBefore (block : HeaderBlock) (name : Memory) : List Memory :=
  block.startLine :: (block.fields.takeWhile fun field => !field.isNamed name).map Field.line

/-- No line before the field of this name has the text in it that is looked for. -/
def HeaderBlock.Unmistaken (block : HeaderBlock) (name : Memory) : Prop :=
  ∀ line ∈ block.linesBefore name, findIgnoringCase (name ++ [58]) line = none

instance (block : HeaderBlock) (name : Memory) : Decidable (block.Unmistaken name) :=
  inferInstanceAs (Decidable (∀ line ∈ block.linesBefore name, _))

/-! ## Lines -/

@[simp]
theorem render_nil : render [] = [] :=
  rfl

@[simp]
theorem render_cons (line : Memory) (lines : List Memory) :
    render (line :: lines) = line ++ 13 :: 10 :: render lines := by
  simp [render]

theorem isLineByte_iff {byte : Byte} :
    isLineByte byte = true ↔ byte ≠ 0 ∧ byte ≠ 13 ∧ byte ≠ 10 := by
  simp [isLineByte, and_assoc]

theorem Field.line_clean (field : Field) : ∀ byte ∈ field.line, isLineByte byte = true := by
  intro byte member
  rcases List.mem_append.mp member with inName | inText
  · have clean := List.all_eq_true.mp field.nameClean byte inName
    rw [Bool.and_eq_true] at clean
    exact clean.1
  · rcases List.mem_cons.mp inText with rfl | inText
    · rfl
    · exact List.all_eq_true.mp field.textClean byte inText

/-- The bytes of all lines of a block are clean. -/
theorem HeaderBlock.lines_clean (block : HeaderBlock) :
    ∀ line ∈ block.startLine :: block.fields.map Field.line, ∀ byte ∈ line,
      isLineByte byte = true := by
  intro line member
  rcases List.mem_cons.mp member with rfl | member
  · exact List.all_eq_true.mp block.startClean
  · rcases List.mem_map.mp member with ⟨field, -, rfl⟩
    exact field.line_clean

theorem zero_notMem_render {lines : List Memory}
    (clean : ∀ line ∈ lines, ∀ byte ∈ line, isLineByte byte = true) :
    0 ∉ render lines := by
  intro member
  simp only [render, List.mem_flatMap, List.mem_append] at member
  rcases member with ⟨line, isLine, inLine | inEnd⟩
  · exact (isLineByte_iff.mp (clean line isLine 0 inLine)).1 rfl
  · simp at inEnd

/-! ## The end of the header -/

theorem findHeaderEnd_line {line : Memory} (clean : 13 ∉ line) (rest : Memory) :
    findHeaderEnd (line ++ rest) = (findHeaderEnd rest).map (· + line.length) := by
  induction line with
  | nil => simp
  | cons byte line induction =>
      rw [List.mem_cons, not_or] at clean
      have other : ¬ (byte :: (line ++ rest)).take 4 = [13, 10, 13, 10] := by
        simp [Ne.symm clean.1]
      rw [List.cons_append, findHeaderEnd, if_neg other, induction clean.2]
      simp [Function.comp_def, Nat.add_assoc]

/-- A line that another line follows does not end the header. -/
theorem findHeaderEnd_crlf {byte : Byte} (other : byte ≠ 13) (rest : Memory) :
    findHeaderEnd (13 :: 10 :: byte :: rest) = (findHeaderEnd (byte :: rest)).map (· + 2) := by
  have first : ¬ (13 :: 10 :: byte :: rest).take 4 = [13, 10, 13, 10] := by
    simp [other]
  have second : ¬ (10 :: byte :: rest).take 4 = [13, 10, 13, 10] := by
    simp
  rw [findHeaderEnd, if_neg first, findHeaderEnd, if_neg second]
  simp [Function.comp_def]

/-- The empty line behind the last line ends the header. -/
theorem findHeaderEnd_render {first : Memory} {lines : List Memory}
    (clean : ∀ line ∈ first :: lines, ∀ byte ∈ line, isLineByte byte = true)
    (nonempty : ∀ line ∈ lines, line ≠ []) (tail : Memory) :
    findHeaderEnd (render (first :: lines) ++ 13 :: 10 :: tail) =
      some ((render (first :: lines)).length + 2) := by
  induction lines generalizing first with
  | nil =>
      have noCr : 13 ∉ first := fun member =>
        (isLineByte_iff.mp (clean first List.mem_cons_self 13 member)).2.1 rfl
      rw [render_cons, List.append_assoc, findHeaderEnd_line noCr]
      simp only [render_nil, List.cons_append, List.nil_append, findHeaderEnd, List.take_succ_cons,
        List.take_zero, if_true, Option.map_some, List.length_append, List.length_cons,
        List.length_nil, Option.some.injEq]
      omega
  | cons next rest induction =>
      have noCr : 13 ∉ first := fun member =>
        (isLineByte_iff.mp (clean first List.mem_cons_self 13 member)).2.1 rfl
      have later := induction (fun line member => clean line (List.mem_cons_of_mem _ member))
        fun line member => nonempty line (List.mem_cons_of_mem _ member)
      rw [render_cons, List.append_assoc, findHeaderEnd_line noCr]
      cases start : next with
      | nil => exact absurd start (nonempty next List.mem_cons_self)
      | cons byte more =>
          have other : byte ≠ 13 := by
            have byteClean := clean next (by simp) byte (by simp [start])
            exact (isLineByte_iff.mp byteClean).2.1
          subst start
          rw [render_cons] at later ⊢
          simp only [List.cons_append] at later ⊢
          rw [findHeaderEnd_crlf other, later]
          simp only [Option.map_some, List.length_append, List.length_cons, Option.some.injEq]
          omega

theorem HeaderBlock.findHeaderEnd_eq (block : HeaderBlock) (tail : Memory) :
    findHeaderEnd (block.bytes ++ tail) = some block.bytes.length := by
  have nonempty : ∀ line ∈ block.fields.map Field.line, line ≠ [] := by
    intro line member
    rcases List.mem_map.mp member with ⟨field, -, rfl⟩
    simp [Field.line]
  have found := findHeaderEnd_render block.lines_clean nonempty tail
  rw [HeaderBlock.bytes, List.append_assoc, List.length_append]
  exact found

/-! ## The first occurrence of a name -/

section Search

variable {text : Memory} (foreignLf : toLower 10 ∉ text.map toLower) (nonempty : text ≠ [])

include foreignLf nonempty

theorem findIgnoringCase_lineFeed (rest : Memory) :
    findIgnoringCase text (10 :: rest) = (findIgnoringCase text rest).map (· + 1) := by
  have behind : findIgnoringCase text ([] ++ 10 :: rest) = _ :=
    findIgnoringCase_stop foreignLf nonempty rest
  simpa [findIgnoringCase, nonempty] using behind

/-- The first occurrence in the rendered lines is the first one in a line. -/
theorem behindFirst_eq (foreignCr : toLower 13 ∉ text.map toLower) (lines : List Memory)
    (tail : Memory) :
    ((findIgnoringCase text (render lines ++ [13, 10])).map fun position =>
        (render lines ++ [13, 10]).drop (position + text.length) ++ tail) =
      behindFirst text (13 :: 10 :: tail) lines := by
  induction lines with
  | nil =>
      have none : findIgnoringCase text ([] ++ 13 :: [10]) = _ :=
        findIgnoringCase_stop foreignCr nonempty [10]
      rw [findIgnoringCase_lineFeed foreignLf nonempty] at none
      simpa [behindFirst, findIgnoringCase, nonempty] using none
  | cons line lines induction =>
      rw [render_cons, List.append_assoc, List.cons_append, List.cons_append,
        findIgnoringCase_stop foreignCr nonempty, findIgnoringCase_lineFeed foreignLf nonempty,
        behindFirst]
      cases here : findIgnoringCase text line with
      | some position =>
          have bound := findIgnoringCase_bound here
          simp [List.drop_append_of_le_length bound]
      | none =>
          rw [Option.none_or, Option.map_map, Option.map_map, ← induction]
          refine congrArg (Option.map · _) (funext fun position => ?_)
          have behind : position + 1 + (line.length + 1) + text.length =
              line.length + (position + text.length + 2) := by
            omega
          simp only [Function.comp_apply]
          rw [behind, List.drop_length_add_append]
          rfl

end Search

/-- Lines without the text are passed over. -/
theorem behindFirst_append {text rest : Memory} {first : List Memory}
    (absent : ∀ line ∈ first, findIgnoringCase text line = none) (second : List Memory) :
    behindFirst text rest (first ++ second) = behindFirst text rest second := by
  induction first with
  | nil => rfl
  | cons line lines induction =>
      rw [List.cons_append, behindFirst, absent line List.mem_cons_self]
      exact induction fun other member => absent other (List.mem_cons_of_mem _ member)

theorem length_of_isNamed {field : Field} {name : Memory} (named : field.isNamed name = true) :
    name.length = field.name.length := by
  have same : field.name.map toLower = name.map toLower := of_decide_eq_true named
  simpa using (congrArg List.length same).symm

theorem Field.startsIgnoringCase_line {field : Field} {name : Memory}
    (named : field.isNamed name = true) (rest : Memory) :
    startsIgnoringCase (name ++ [58]) (field.line ++ rest) = true := by
  have same : field.name.map toLower = name.map toLower := of_decide_eq_true named
  rw [startsIgnoringCase, List.length_append, length_of_isNamed named, Field.line,
    List.append_assoc, List.take_length_add_append]
  simp [same]

/-- Blanks end at the end of the line. -/
theorem dropWhile_stop {text : Memory} {stop : Byte} (other : isBlank stop = false)
    (rest : Memory) :
    (text ++ stop :: rest).dropWhile isBlank = text.dropWhile isBlank ++ stop :: rest := by
  rw [List.dropWhile_append]
  split_ifs with blank
  · rw [List.isEmpty_iff.mp blank, List.dropWhile_cons_of_neg (by simp [other]), List.nil_append]
  · rfl

/-- The lines of a block up to the field of a name, if it has one. -/
theorem HeaderBlock.lines_eq (block : HeaderBlock) (name : Memory) :
    (block.named name = none ∧
        block.startLine :: block.fields.map Field.line = block.linesBefore name ++ []) ∨
      ∃ field after, block.named name = some field ∧ field ∈ block.fields ∧
        field.isNamed name = true ∧
        block.startLine :: block.fields.map Field.line =
          block.linesBefore name ++ field.line :: after := by
  cases named : block.named name with
  | none =>
      refine Or.inl ⟨rfl, ?_⟩
      have all : (block.fields.takeWhile fun field => !field.isNamed name) = block.fields := by
        rw [List.takeWhile_eq_self_iff]
        intro field member
        have other := List.find?_eq_none.mp named field member
        simpa using other
      rw [HeaderBlock.linesBefore, all, List.append_nil]
  | some field =>
      rcases List.find?_eq_some_iff_append.mp named with ⟨isNamed, before, after, split, others⟩
      have front : (block.fields.takeWhile fun field => !field.isNamed name) = before := by
        rw [split, List.takeWhile_append_of_pos others,
          List.takeWhile_cons_of_neg (by simp [isNamed]), List.append_nil]
      refine Or.inr ⟨field, after.map Field.line, rfl, ?_, isNamed, ?_⟩
      · simp [split]
      · rw [HeaderBlock.linesBefore, front, split]
        simp

/-- The text that is looked for in a header, and its bytes that no line ending has. -/
structure Sought (name : Memory) : Prop where
  foreignCr : toLower 13 ∉ (name ++ [58]).map toLower
  foreignLf : toLower 10 ∉ (name ++ [58]).map toLower

/-- What is read from the buffer for a name is what stands behind its first occurrence. -/
theorem HeaderBlock.fieldValue_eq (block : HeaderBlock) {name : Memory} (sought : Sought name)
    (tail : Memory) :
    fieldValue (block.bytes ++ tail) (name ++ [58]) block.bytes.length =
      (block.behind name tail).map fun text => text.dropWhile isBlank := by
  have nonempty : name ++ [58] ≠ [] := by simp
  have clean : 0 ∉ block.bytes := by
    rw [HeaderBlock.bytes, List.mem_append, not_or]
    exact ⟨zero_notMem_render block.lines_clean, by simp⟩
  have ends : block.bytes.getLast? = some 10 := by
    rw [HeaderBlock.bytes, List.getLast?_append]
    rfl
  rw [fieldValue_append sought.foreignLf nonempty clean ends, HeaderBlock.behind,
    ← behindFirst_eq sought.foreignLf nonempty sought.foreignCr, Option.map_map]
  rfl

/-- The first occurrence is the field itself, if no line before it has the text. -/
theorem HeaderBlock.behind_of_unmistaken (block : HeaderBlock) {name : Memory}
    (unmistaken : block.Unmistaken name) (tail : Memory) :
    (block.named name = none ∧ block.behind name tail = none) ∨
      ∃ field rest, block.named name = some field ∧ field ∈ block.fields ∧
        field.isNamed name = true ∧ block.behind name tail = some (field.text ++ 13 :: rest) := by
  rw [HeaderBlock.behind]
  rcases block.lines_eq name with
    ⟨absent, lines_eq⟩ | ⟨field, after, found, member, named, lines_eq⟩
  · refine Or.inl ⟨absent, ?_⟩
    rw [lines_eq, behindFirst_append unmistaken]
    rfl
  · refine Or.inr ⟨field, 10 :: (render after ++ 13 :: 10 :: tail), found, member, named, ?_⟩
    have starts : startsIgnoringCase (name ++ [58]) (field.line ++ []) = true :=
      field.startsIgnoringCase_line named []
    rw [List.append_nil] at starts
    have text_eq : field.line.drop (0 + (name ++ [58]).length) = field.text := by
      rw [Nat.zero_add, List.length_append, length_of_isNamed named, Field.line,
        List.drop_length_add_append]
      rfl
    rw [lines_eq, behindFirst_append unmistaken, behindFirst, findIgnoringCase_of_starts starts]
    dsimp only
    rw [text_eq]

/-! ## The two fields -/

theorem sought_lengthName : Sought lengthName :=
  ⟨by decide, by decide⟩

theorem sought_connectionName : Sought connectionName :=
  ⟨by decide, by decide⟩

/-- A number is read as its decimal value up to the end of its line. -/
theorem strtoull_number {value : Memory} (number : isNumber value = true)
    (small : decimal (value.takeWhile isDigit) < sizeModulus) (rest : Memory) :
    strtoull (value ++ 13 :: rest) = decimal (value.takeWhile isDigit) := by
  cases value with
  | nil => simp [isNumber] at number
  | cons first more =>
      have digit : isDigit first = true := by
        by_contra other
        simp [isNumber, other] at number
      have same : (first :: (more ++ 13 :: rest)).takeWhile isDigit =
          (first :: more).takeWhile isDigit := by
        rw [← List.cons_append, takeWhile_stop (by decide)]
      rw [List.cons_append, strtoull_of_isDigit digit, same]
      rwa [same]

theorem HeaderBlock.contentLengthField_behind (block : HeaderBlock) (tail : Memory) :
    contentLengthField (block.bytes ++ tail) block.bytes.length =
      numberAt (block.behind lengthName tail) := by
  have text : ascii "Content-Length:" = lengthName ++ [58] := rfl
  rw [contentLengthField, text, block.fieldValue_eq sought_lengthName]
  cases block.behind lengthName tail <;> rfl

theorem HeaderBlock.connectionCloseField_behind (block : HeaderBlock) (tail : Memory) :
    connectionCloseField (block.bytes ++ tail) block.bytes.length =
      closeAt (block.behind connectionName tail) := by
  have text : ascii "Connection:" = connectionName ++ [58] := rfl
  rw [connectionCloseField, text, block.fieldValue_eq sought_connectionName]
  cases block.behind connectionName tail <;> rfl

theorem HeaderBlock.numberAt_behind (block : HeaderBlock)
    (unmistaken : block.Unmistaken lengthName) (small : block.contentLength < sizeModulus)
    (tail : Memory) :
    numberAt (block.behind lengthName tail) = block.contentLength := by
  rw [HeaderBlock.contentLength] at small ⊢
  rcases block.behind_of_unmistaken unmistaken tail with
    ⟨absent, behind⟩ | ⟨field, rest, found, member, named, behind⟩
  · rw [behind, absent]
    rfl
  · rw [found] at small
    rw [behind, found, numberAt, dropWhile_stop (by decide)]
    exact strtoull_number (block.numeric field member named) small rest

theorem HeaderBlock.closeAt_behind (block : HeaderBlock)
    (unmistaken : block.Unmistaken connectionName) (tail : Memory) :
    closeAt (block.behind connectionName tail) = block.connectionClose := by
  rw [HeaderBlock.connectionClose]
  rcases block.behind_of_unmistaken unmistaken tail with
    ⟨absent, behind⟩ | ⟨field, rest, found, member, named, behind⟩
  · rw [behind, absent]
    rfl
  · rw [behind, found, closeAt, dropWhile_stop (by decide)]
    exact startsIgnoringCase_stop (by decide) rest

/-- No line before the two fields has the texts in it, and the length is below `2^64`. -/
theorem HeaderBlock.firstIsField_of_unmistaken (block : HeaderBlock) (tail : Memory)
    (length : block.Unmistaken lengthName) (connection : block.Unmistaken connectionName)
    (small : block.contentLength < sizeModulus) :
    block.FirstIsField tail :=
  ⟨block.numberAt_behind length small tail, block.closeAt_behind connection tail⟩

/-! ## Both parsers -/

/-- What a receive buffer holds when a whole header has been received. -/
theorem HeaderBlock.findHeaderEnd_take (block : HeaderBlock) {tail : Memory} {received : Nat}
    (arrived : block.bytes.length ≤ received) :
    findHeaderEnd ((block.bytes ++ tail).take received) = some block.bytes.length := by
  rw [List.take_append, List.take_of_length_le arrived]
  exact block.findHeaderEnd_eq _

/-- A connection that has received these bytes and has not parsed them. -/
def receivedBy (bytes : Memory) : UpstreamConn :=
  { rpcConnInit bytes .slotOnConnected with recvLen := bytes.length }

/-- A client that has sent these bytes. -/
def sentBy (bytes : Memory) : Client :=
  ⟨none, bytes, bytes.length, true⟩

/--
Whatever stands in the receive buffers behind a well-formed header block, both
parsers find its end and read its two fields, exactly if the texts behind the
first occurrences of the two names read like the fields.
-/
theorem fields_read_iff_firstIsField (block : HeaderBlock) (tail : Memory) :
    ((∀ conn : UpstreamConn, conn.headersComplete = false →
        conn.recvBuf = block.bytes ++ tail → block.bytes.length ≤ conn.recvLen →
        parseHeaders conn =
          { conn with
            headerLen := block.bytes.length
            headersComplete := true
            contentLength := block.contentLength
            connectionClose := block.connectionClose }) ∧
      ∀ client : Client, client.recvBuf = block.bytes ++ tail →
        block.bytes.length ≤ client.recvLen →
        parseHttpRequest client =
          decide ((block.bytes.length + block.contentLength) % sizeModulus ≤ client.recvLen)) ↔
      block.FirstIsField tail := by
  constructor
  · rintro ⟨read, -⟩
    have parsed := read (receivedBy (block.bytes ++ tail)) rfl rfl (by simp [receivedBy])
    have found : findHeaderEnd ((block.bytes ++ tail).take (block.bytes ++ tail).length) =
        some block.bytes.length :=
      block.findHeaderEnd_take (by simp)
    have unparsed : (receivedBy (block.bytes ++ tail)).headersComplete = false := rfl
    have stored : (receivedBy (block.bytes ++ tail)).recvBuf = block.bytes ++ tail := rfl
    have received : (receivedBy (block.bytes ++ tail)).recvLen = (block.bytes ++ tail).length :=
      rfl
    rw [parseHeaders, unparsed, stored, received, found] at parsed
    constructor
    · rw [← block.contentLengthField_behind]
      exact congrArg UpstreamConn.contentLength parsed
    · rw [← block.connectionCloseField_behind]
      exact congrArg UpstreamConn.connectionClose parsed
  · rintro ⟨length, connection⟩
    rw [← block.contentLengthField_behind] at length
    rw [← block.connectionCloseField_behind] at connection
    constructor
    · intro conn waiting stored arrived
      rw [parseHeaders, waiting, stored, block.findHeaderEnd_take arrived]
      simp only [Bool.false_eq_true, if_false, length, connection]
    · intro client stored arrived
      rw [parseHttpRequest, stored, block.findHeaderEnd_take arrived]
      simp only [length]

/-- A field from its two texts. -/
def field (name text : String)
    (nameClean : ((ascii name).all fun byte => isLineByte byte && byte ≠ 58) = true)
    (textClean : (ascii text).all isLineByte = true) : Field :=
  ⟨ascii name, ascii text, nameClean, textClean⟩

/-- The two fields in another case and order, with one between them. -/
def plainBlock : HeaderBlock where
  startLine := ascii "HTTP/1.1 200 OK"
  fields :=
    [field "CONNECTION" " close" (by decide) (by decide),
      field "Server" " node" (by decide) (by decide),
      field "content-length" "\t12 " (by decide) (by decide)]
  startClean := by decide
  oneLength := by decide
  oneConnection := by decide
  numeric := by decide

theorem fields_read_iff_firstIsField_plainBlock :
    plainBlock.contentLength = 12 ∧ plainBlock.connectionClose = true ∧
      parseHeaders (receivedBy plainBlock.bytes) =
        { receivedBy plainBlock.bytes with
          headerLen := plainBlock.bytes.length
          headersComplete := true
          contentLength := plainBlock.contentLength
          connectionClose := plainBlock.connectionClose } := by
  refine ⟨by decide, by decide, ?_⟩
  have first := plainBlock.firstIsField_of_unmistaken [] (by decide) (by decide) (by decide)
  have read := (fields_read_iff_firstIsField plainBlock []).mpr first
  exact read.1 (receivedBy plainBlock.bytes) rfl (List.append_nil _).symm le_rfl

/-! ## Longer field names -/

/-- The names of the first two fields end in the texts that are looked for. -/
def mistakenBlock : HeaderBlock where
  startLine := ascii "POST / HTTP/1.1"
  fields :=
    [field "X-Content-Length" " 5" (by decide) (by decide),
      field "Proxy-Connection" " close" (by decide) (by decide),
      field "Content-Length" " 2" (by decide) (by decide)]
  startClean := by decide
  oneLength := by decide
  oneConnection := by decide
  numeric := by decide

/--
Both parsers read the values of the longer names, so a request whose body has
arrived is taken to be incomplete.
-/
theorem mistakenBlock_misread :
    mistakenBlock.contentLength = 2 ∧ mistakenBlock.connectionClose = false ∧
      (parseHeaders (receivedBy (mistakenBlock.bytes ++ ascii "[]"))).contentLength = 5 ∧
      (parseHeaders (receivedBy (mistakenBlock.bytes ++ ascii "[]"))).connectionClose = true ∧
      parseHttpRequest (sentBy (mistakenBlock.bytes ++ ascii "[]")) = false := by
  decide

end RpcRace.HeaderFields
