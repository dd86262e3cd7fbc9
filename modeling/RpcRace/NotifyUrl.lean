import RpcRace.BlockNotify
import RpcRace.HexText
import RpcRace.Library.Numeral

/-!
# The URL of the HTTP relay

`parse_http_url` of `notifier.c` takes `notify_http_url` apart, and the first
part of `relay_http_notify` builds the request for a block hash from what it
found.

The port is read by `strtol`, so more is accepted than URLs: white space and a
plus sign before the port, and any text behind it that is no path.  Those are
the only texts that are not read exactly (`exact_iff_not_laxPort`).  Every
request fits its buffers, and its target is the path with the hash in the
place of the first `%s` (`buildRequest_target`).
-/

namespace RpcRace.NotifyUrl

open RpcRace.Library.CString
open RpcRace.Library.Numeral
open RpcRace.HexText
open RpcRace.BlockNotify (BlockHash hashSize)

/-! ## `parse_http_url` -/

/-- `notify_http_host`, `notify_http_port` and `notify_http_path`. -/
@[ext]
structure UrlParts where
  host : Memory
  port : UInt16
  path : Memory
deriving DecidableEq, Repr

/-- The host goes on up to a colon, a slash or the end. -/
def isHostChar (char : Byte) : Bool :=
  char ≠ 58 && char ≠ 47

/-- The port, and the text behind it. -/
def parsePort (text : Memory) : Option (UInt16 × Memory) :=
  if text.head? = some 58 then
    match strtol text.tail with
    | none => none
    | some (value, rest) =>
        if value ≤ 0 ∨ 65535 < value then none
        else some (UInt16.ofNat value.toNat, rest)
  else some (80, text)

/-- The path, which is a slash where the text has none. -/
def parsePath (pathLen : Nat) (text : Memory) : Option Memory :=
  if text.head? = some 47 then
    if pathLen ≤ text.length then none else some text
  else if pathLen < 2 then none
  else some (ascii "/")

/-- `parse_http_url` with buffers of these sizes. -/
def parseHttpUrl (hostLen pathLen : Nat) (url : Memory) : Option UrlParts :=
  let text := cString url
  if text.take 7 ≠ ascii "http://" then none
  else
    let host := (text.drop 7).takeWhile isHostChar
    if host.length = 0 ∨ hostLen ≤ host.length then none
    else do
      let (port, rest) ← parsePort ((text.drop 7).dropWhile isHostChar)
      let path ← parsePath pathLen rest
      some ⟨host, port, path⟩

/-- `sizeof(n->notify_http_host)`. -/
def hostSize : Nat := 256

/-- `sizeof(n->notify_http_path)`. -/
def pathSize : Nat := 512

/-! ## What is parsed -/

theorem parsePort_eq_some_iff {text rest : Memory} {port : UInt16} :
    parsePort text = some (port, rest) ↔
      (text.head? ≠ some 58 ∧ port = 80 ∧ rest = text) ∨
        ∃ blanks sign digits, text = 58 :: (blanks ++ (sign ++ (digits ++ rest))) ∧
          Written blanks sign digits rest ∧ decimal digits = port.toNat ∧ 0 < port.toNat := by
  unfold parsePort
  by_cases colon : text.head? = some 58
  · rcases List.head?_eq_some_iff.mp colon with ⟨number, rfl⟩
    rw [if_pos colon, List.tail_cons]
    constructor
    · intro parsed
      right
      cases read : strtol number with
      | none => simp [read] at parsed
      | some result =>
          rcases result with ⟨value, after⟩
          simp only [read] at parsed
          split_ifs at parsed with range
          push Not at range
          rw [Option.some.injEq, Prod.mk.injEq] at parsed
          rcases parsed with ⟨rfl, rfl⟩
          rcases Int.eq_ofNat_of_zero_le (le_of_lt range.1) with ⟨value, rfl⟩
          have fits : (UInt16.ofNat (value : Int).toNat).toNat = value :=
            UInt16.toNat_ofNat_of_lt (by change value < 65536; omega)
          rcases (strtol_eq_some_iff (by omega) (by omega)).mp read with
            ⟨blanks, sign, digits, rfl, written, decimals⟩
          exact ⟨blanks, sign, digits, rfl, written, by rw [decimals, fits], by rw [fits]; omega⟩
    · rintro (⟨other, -⟩ | ⟨blanks, sign, digits, same, written, decimals, positive⟩)
      · exact absurd colon other
      · have bound : port.toNat < 65536 := port.toNat_lt
        have read : strtol number = some ((port.toNat : Int), rest) :=
          (strtol_eq_some_iff positive (by omega)).mpr
            ⟨blanks, sign, digits, (List.cons.inj same).2, written, decimals⟩
        have range : ¬ ((port.toNat : Int) ≤ 0 ∨ 65535 < (port.toNat : Int)) := by omega
        simp only [read, if_neg range, Int.toNat_natCast, UInt16.ofNat_toNat]
  · rw [if_neg colon, Option.some.injEq, Prod.mk.injEq]
    constructor
    · rintro ⟨rfl, rfl⟩
      exact Or.inl ⟨colon, rfl, rfl⟩
    · rintro (⟨-, rfl, rfl⟩ | ⟨blanks, sign, digits, rfl, -⟩)
      · exact ⟨rfl, rfl⟩
      · exact absurd rfl colon

theorem parsePath_eq_some_iff {pathLen : Nat} {text path : Memory} :
    parsePath pathLen text = some path ↔
      (text.head? = some 47 ∧ text.length < pathLen ∧ path = text) ∨
        (text.head? ≠ some 47 ∧ 2 ≤ pathLen ∧ path = ascii "/") := by
  unfold parsePath
  split_ifs with slash long short
  · simp [slash, Nat.not_lt.mpr long]
  · simp [slash, Nat.not_le.mp long, eq_comm]
  · simp [slash, Nat.not_le.mpr short]
  · simp [slash, Nat.not_lt.mp short, eq_comm]

theorem parseHttpUrl_eq_some_iff {hostLen pathLen : Nat} {url : Memory} {parts : UrlParts} :
    parseHttpUrl hostLen pathLen url = some parts ↔
      ∃ portText rest, cString url = ascii "http://" ++ (parts.host ++ portText) ∧
        (0 < parts.host.length ∧ parts.host.length < hostLen) ∧
        (∀ char ∈ parts.host, isHostChar char = true) ∧ Stops isHostChar portText ∧
        parsePort portText = some (parts.port, rest) ∧
        parsePath pathLen rest = some parts.path := by
  unfold parseHttpUrl
  dsimp only
  constructor
  · intro parsed
    split_ifs at parsed with scheme size
    push Not at scheme size
    simp only [Option.bind_eq_bind, Option.bind_eq_some_iff, Option.some.injEq] at parsed
    rcases parsed with ⟨⟨port, rest⟩, portRead, path, pathRead, rfl⟩
    refine ⟨_, rest, ?_, ⟨Nat.pos_of_ne_zero size.1, size.2⟩, fun _ => List.mem_takeWhile_imp,
      stops_dropWhile _, portRead, pathRead⟩
    rw [List.takeWhile_append_dropWhile, ← scheme, List.take_append_drop]
  · rintro ⟨portText, rest, text, size, host, stops, portRead, pathRead⟩
    have scheme : (cString url).take 7 = ascii "http://" := by
      rw [text]
      rfl
    have behind : (cString url).drop 7 = parts.host ++ portText := by
      rw [text]
      rfl
    have some_ : ¬ (parts.host.length = 0 ∨ hostLen ≤ parts.host.length) := by omega
    rw [behind, takeWhile_append_of_stops host stops, dropWhile_append_of_stops host stops,
      if_neg (not_not.mpr scheme), if_neg some_, portRead]
    simp only [Option.bind_eq_bind, Option.bind_some, pathRead]

/-! ## What a URL denotes -/

/-- Nothing, or a colon and a port in decimal. -/
def PortPart (part : Memory) (port : UInt16) : Prop :=
  (part = [] ∧ port = 80) ∨
    ∃ digits, part = 58 :: digits ∧ digits ≠ [] ∧ (∀ byte ∈ digits, isDigit byte = true) ∧
      decimal digits = port.toNat ∧ 0 < port.toNat

/-- Nothing, or a path from its slash on. -/
def PathPart (part path : Memory) : Prop :=
  (part = [] ∧ path = ascii "/") ∨ (part.head? = some 47 ∧ part.length < pathSize ∧ path = part)

/-- The characters of a host that fits its buffer. -/
def IsHost (host : Memory) : Prop :=
  (0 < host.length ∧ host.length < hostSize) ∧ ∀ char ∈ host, isHostChar char = true

/-- The text is a URL with these parts, and nothing else. -/
def Denotes (text : Memory) (parts : UrlParts) : Prop :=
  ∃ portPart pathPart, text = ascii "http://" ++ (parts.host ++ (portPart ++ pathPart)) ∧
    IsHost parts.host ∧ PortPart portPart parts.port ∧ PathPart pathPart parts.path

/-- The parser accepts the URLs, and returns the parts that each one denotes. -/
def Exact (url : Memory) : Prop :=
  ∀ parts, parseHttpUrl hostSize pathSize url = some parts ↔ Denotes (cString url) parts

/-- There is more around the digits of a port than a path behind them. -/
def Surrounded (blanks sign tail : Memory) : Prop :=
  blanks ≠ [] ∨ sign ≠ [] ∨ (tail ≠ [] ∧ tail.head? ≠ some 47)

/--
A text whose port `strtol` reads although it is surrounded: by white space or
a plus sign before its digits, or by text behind them that is no path.
-/
def LaxPort (text : Memory) : Prop :=
  ∃ host blanks sign digits tail,
    text = ascii "http://" ++ (host ++ 58 :: (blanks ++ (sign ++ (digits ++ tail)))) ∧
    IsHost host ∧ Written blanks sign digits tail ∧
    (0 < decimal digits ∧ decimal digits ≤ 65535) ∧
    (tail.head? = some 47 → tail.length < pathSize) ∧ Surrounded blanks sign tail

theorem PathPart.stops {part path : Memory} (denoted : PathPart part path) (kind : Byte → Bool)
    (slash : kind 47 = false) :
    Stops kind part := by
  intro byte head
  rcases denoted with ⟨rfl, -⟩ | ⟨rooted, -⟩
  · simp at head
  · obtain rfl : 47 = byte := Option.some.inj (rooted.symm.trans head)
    exact slash

theorem PathPart.parsed {part path : Memory} (denoted : PathPart part path) :
    parsePath pathSize part = some path := by
  rw [parsePath_eq_some_iff]
  rcases denoted with ⟨rfl, rfl⟩ | ⟨rooted, fits, rfl⟩
  · exact Or.inr ⟨by simp, by decide, rfl⟩
  · exact Or.inl ⟨rooted, fits, rfl⟩

/-- A port in front of a path stops the host. -/
theorem PortPart.stops {portPart pathPart path : Memory} {port : UInt16}
    (denoted : PortPart portPart port) (rest : PathPart pathPart path) :
    Stops isHostChar (portPart ++ pathPart) := by
  rcases denoted with ⟨rfl, -⟩ | ⟨digits, rfl, -⟩
  · exact rest.stops _ (by decide)
  · exact stops_cons (by decide)

theorem PortPart.parsed {portPart pathPart path : Memory} {port : UInt16}
    (denoted : PortPart portPart port) (rest : PathPart pathPart path) :
    parsePort (portPart ++ pathPart) = some (port, pathPart) := by
  rw [parsePort_eq_some_iff]
  rcases denoted with ⟨rfl, rfl⟩ | ⟨digits, rfl, nonempty, decimals, number, positive⟩
  · left
    refine ⟨fun colon => ?_, rfl, rfl⟩
    have stopped := rest.stops (· = 58) (by decide) 58 colon
    simp at stopped
  · right
    exact ⟨[], [], digits, rfl, ⟨by simp, Or.inl rfl, nonempty, decimals, rest.stops _ (by decide)⟩,
      number, positive⟩

/-- Every URL is accepted as what it denotes. -/
theorem parseHttpUrl_of_denotes {url : Memory} {parts : UrlParts}
    (denotes : Denotes (cString url) parts) :
    parseHttpUrl hostSize pathSize url = some parts := by
  rcases denotes with ⟨portPart, pathPart, text, host, port, path⟩
  exact parseHttpUrl_eq_some_iff.mpr ⟨portPart ++ pathPart, pathPart, text, host.1, host.2,
    port.stops path, port.parsed path, path.parsed⟩

/-- What is accepted otherwise has a surrounded port. -/
theorem denotes_or_laxPort {url : Memory} {parts : UrlParts}
    (parsed : parseHttpUrl hostSize pathSize url = some parts) :
    Denotes (cString url) parts ∨ LaxPort (cString url) := by
  rcases parseHttpUrl_eq_some_iff.mp parsed with
    ⟨portText, rest, text, size, chars, stops, portRead, pathRead⟩
  rcases parsePort_eq_some_iff.mp portRead with
    ⟨colon, port, rfl⟩ | ⟨blanks, sign, digits, rfl, written, decimals, positive⟩
  · -- Without a colon the host ends at a slash or at the end of the text.
    left
    refine ⟨[], rest, text, ⟨size, chars⟩, Or.inl ⟨rfl, port⟩, ?_⟩
    rcases parsePath_eq_some_iff.mp pathRead with ⟨rooted, fits, path⟩ | ⟨other, -, path⟩
    · exact Or.inr ⟨rooted, fits, path⟩
    · cases rest with
      | nil => exact Or.inl ⟨rfl, path⟩
      | cons byte tail =>
          have stopped := stops byte rfl
          simp only [List.head?_cons, ne_eq, Option.some.injEq] at colon other
          simp [isHostChar, colon, other] at stopped
  · have range : 0 < decimal digits ∧ decimal digits ≤ 65535 := by
      have bound : parts.port.toNat < 65536 := parts.port.toNat_lt
      omega
    by_cases surrounded : Surrounded blanks sign rest
    · right
      refine ⟨parts.host, blanks, sign, digits, rest, text, ⟨size, chars⟩, written, range, ?_,
        surrounded⟩
      intro rooted
      rcases parsePath_eq_some_iff.mp pathRead with ⟨-, fits, -⟩ | ⟨other, -⟩
      · exact fits
      · exact absurd rooted other
    · left
      simp only [Surrounded, not_or, not_not, not_and] at surrounded
      rcases surrounded with ⟨rfl, rfl, tail⟩
      refine ⟨58 :: digits, rest, text, ⟨size, chars⟩,
        Or.inr ⟨digits, rfl, written.nonempty, written.decimal, decimals, positive⟩, ?_⟩
      rcases parsePath_eq_some_iff.mp pathRead with ⟨rooted, fits, path⟩ | ⟨other, -, path⟩
      · exact Or.inr ⟨rooted, fits, path⟩
      · exact Or.inl ⟨by_contra fun some_ => other (tail some_), path⟩

/-- A text with a surrounded port is accepted. -/
theorem parseHttpUrl_of_laxPort {url : Memory} (lax : LaxPort (cString url)) :
    ∃ parts, parseHttpUrl hostSize pathSize url = some parts := by
  rcases lax with ⟨host, blanks, sign, digits, tail, text, valid, written, range, fits, -⟩
  have number : (UInt16.ofNat (decimal digits)).toNat = decimal digits :=
    UInt16.toNat_ofNat_of_lt (by change decimal digits < 65536; omega)
  have port : parsePort (58 :: (blanks ++ (sign ++ (digits ++ tail)))) =
      some (UInt16.ofNat (decimal digits), tail) :=
    parsePort_eq_some_iff.mpr (Or.inr
      ⟨blanks, sign, digits, rfl, written, number.symm, by rw [number]; exact range.1⟩)
  have path : ∃ path, parsePath pathSize tail = some path := by
    by_cases rooted : tail.head? = some 47
    · exact ⟨tail, parsePath_eq_some_iff.mpr (Or.inl ⟨rooted, fits rooted, rfl⟩)⟩
    · exact ⟨ascii "/", parsePath_eq_some_iff.mpr (Or.inr ⟨rooted, by decide, rfl⟩)⟩
  rcases path with ⟨path, pathRead⟩
  exact ⟨⟨host, UInt16.ofNat (decimal digits), path⟩, parseHttpUrl_eq_some_iff.mpr
    ⟨_, tail, text, valid.1, valid.2, stops_cons (by decide), port, pathRead⟩⟩

/-- It is not a URL. -/
theorem not_denotes_of_laxPort {text : Memory} (lax : LaxPort text) (parts : UrlParts) :
    ¬ Denotes text parts := by
  rcases lax with ⟨host, blanks, sign, digits, tail, rfl, valid, written, -, -, surrounded⟩
  rintro ⟨portPart, pathPart, same, others, port, path⟩
  -- The host is the same, and so is the rest from the colon on.
  rcases append_inj_of_stops (List.append_cancel_left same) valid.2 (stops_cons (by decide))
    others.2 (port.stops path) with ⟨-, rest⟩
  rcases port with ⟨rfl, -⟩ | ⟨decimals, rfl, nonempty, all, -⟩
  · have stopped := path.stops (· = 58) (by decide)
    rw [List.nil_append] at rest
    rw [← rest] at stopped
    simpa using stopped 58 rfl
  · have numbers : blanks ++ (sign ++ (digits ++ tail)) = decimals ++ pathPart :=
      (List.cons.inj rest).2
    rcases List.exists_cons_of_ne_nil nonempty with ⟨first, later, rfl⟩
    have plain := plain_of_isDigit (all first List.mem_cons_self)
    -- The text behind the colon starts with a digit, so there is nothing before the digits.
    obtain rfl : blanks = [] := by
      cases blanks with
      | nil => rfl
      | cons blank blanks =>
          have blank_ := written.blank blank List.mem_cons_self
          rw [(List.cons.inj numbers).1, plain.1] at blank_
          cases blank_
    obtain rfl : sign = [] := by
      rcases written.positive with none | plus
      · exact none
      · rw [plus] at numbers
        exact absurd (List.cons.inj numbers).1.symm plain.2.2
    have behind : digits ++ tail = first :: later ++ pathPart := numbers
    rcases append_inj_of_stops behind written.decimal written.ends all
      (path.stops _ (by decide)) with ⟨-, rfl⟩
    rcases surrounded with blank | plus | ⟨some_, other⟩
    · exact blank rfl
    · exact plus rfl
    · rcases path with ⟨empty, -⟩ | ⟨rooted, -⟩
      · exact some_ empty
      · exact other rooted

/--
The parser is exact on every text but those whose port is surrounded, which it
accepts although they are no URLs.
-/
theorem exact_iff_not_laxPort (url : Memory) : Exact url ↔ ¬ LaxPort (cString url) := by
  constructor
  · intro exact_ lax
    rcases parseHttpUrl_of_laxPort lax with ⟨parts, parsed⟩
    exact not_denotes_of_laxPort lax parts ((exact_ parts).mp parsed)
  · intro strict parts
    constructor
    · intro parsed
      exact (denotes_or_laxPort parsed).resolve_right strict
    · exact parseHttpUrl_of_denotes

/-- Text behind the port is dropped. -/
theorem trailing_not_exact :
    parseHttpUrl hostSize pathSize (ascii "http://h:80abc") = some ⟨ascii "h", 80, ascii "/"⟩ ∧
      ¬ Exact (ascii "http://h:80abc") := by
  have accepted : parseHttpUrl hostSize pathSize (ascii "http://h:80abc") =
      some ⟨ascii "h", 80, ascii "/"⟩ := by
    decide +kernel
  have lax : LaxPort (cString (ascii "http://h:80abc")) := by
    exact ⟨ascii "h", [], [], ascii "80", ascii "abc", by decide +kernel,
      ⟨by decide +kernel, by decide +kernel⟩,
      ⟨by simp, Or.inl rfl, by decide +kernel, by decide +kernel, stops_cons (by decide +kernel)⟩,
      by decide +kernel, by decide +kernel, Or.inr (Or.inr ⟨by decide +kernel, by decide +kernel⟩)⟩
  refine ⟨accepted, fun exact_ => ?_⟩
  exact not_denotes_of_laxPort lax _ ((exact_ _).mp accepted)

/-! ## The request of a notification -/

/-- Parts that fit the fields of the notifier, the path without a zero byte. -/
structure UrlParts.Fits (parts : UrlParts) : Prop where
  host : parts.host.length < hostSize
  path : parts.path.length < pathSize
  clean : 0 ∉ parts.path

/-- What was parsed fits. -/
theorem fits_of_parseHttpUrl {url : Memory} {parts : UrlParts}
    (parsed : parseHttpUrl hostSize pathSize url = some parts) :
    parts.Fits := by
  rcases parseHttpUrl_eq_some_iff.mp parsed with
    ⟨portText, rest, text, size, -, -, portRead, pathRead⟩
  have whole : 0 ∉ portText := by
    have clean := zero_notMem_cString url
    rw [text] at clean
    simp only [List.mem_append, not_or] at clean
    exact clean.2.2
  have restClean : 0 ∉ rest := by
    rcases parsePort_eq_some_iff.mp portRead with ⟨-, -, rfl⟩ | ⟨blanks, sign, digits, rfl, -⟩
    · exact whole
    · simp only [List.mem_cons, List.mem_append, not_or] at whole
      exact whole.2.2.2.2
  rcases parsePath_eq_some_iff.mp pathRead with ⟨-, fits, path⟩ | ⟨-, -, path⟩
  · exact ⟨size.2, by rwa [path], by rwa [path]⟩
  · exact ⟨size.2, by rw [path]; decide +kernel, by rw [path]; decide⟩

/-- Why no request is sent. -/
inductive RequestError where
  | pathTooLong
  | requestTooLong
deriving DecidableEq, Repr

/-- `sizeof(path_buf)`. -/
def pathBufSize : Nat := 1024

/-- `sizeof(request)`. -/
def requestSize : Nat := 2048

/-- `path_buf`: the path, with the hash in the place of the first `%s`. -/
def buildPath (path : Memory) (hash : BlockHash) : Except RequestError Memory :=
  match strstr path (ascii "%s") with
  | some prefixLen =>
      let written := path.take prefixLen ++ (hexEncode hash.1 ++ path.drop (prefixLen + 2))
      if pathBufSize ≤ written.length then .error .pathTooLong else .ok written
  | none => if pathBufSize ≤ path.length then .error .pathTooLong else .ok path

/-- The format of the request. -/
def requestText (parts : UrlParts) (target : Memory) : Memory :=
  ascii "GET " ++ (target ++ (ascii " HTTP/1.1\r\nHost: " ++ (parts.host ++ (ascii ":" ++
    (decimalText parts.port.toNat ++ ascii "\r\nConnection: keep-alive\r\n\r\n")))))

/-- `request`. -/
def buildRequest (parts : UrlParts) (hash : BlockHash) : Except RequestError Memory := do
  let target ← buildPath parts.path hash
  let request := requestText parts target
  if requestSize ≤ request.length then .error .requestTooLong else .ok request

/--
The target is the path with its first `%s` replaced and every other character
kept, or the path itself where there is none.
-/
def Substituted (path hex target : Memory) : Prop :=
  (∃ front rest, path = front ++ (ascii "%s" ++ rest) ∧
    (∀ earlier < front.length, ¬ ascii "%s" <+: path.drop earlier) ∧
    target = front ++ (hex ++ rest)) ∨
  (¬ ascii "%s" <:+: path ∧ target = path)

theorem length_hash (hash : BlockHash) : (hexEncode hash.1).length = 64 := by
  rw [length_hexEncode, hash.2]
  rfl

/-- The path is built, and grows by the length of a hash at most. -/
theorem buildPath_substituted {path : Memory} (fits : path.length < pathSize) (clean : 0 ∉ path)
    (hash : BlockHash) :
    ∃ target, buildPath path hash = .ok target ∧ Substituted path (hexEncode hash.1) target ∧
      target.length < pathSize + 64 := by
  have size : pathSize + 64 ≤ pathBufSize := by decide +kernel
  have hex := length_hash hash
  unfold buildPath
  rw [strstr, cString_of_notMem clean]
  cases found : findText (ascii "%s") path with
  | none =>
      refine ⟨path, if_neg (by omega), Or.inr ⟨findText_eq_none_iff.mp found, rfl⟩, by omega⟩
  | some position =>
      rcases findText_eq_some_iff.mp found with ⟨⟨rest, here⟩, first⟩
      have cut : path = path.take position ++ (ascii "%s" ++ rest) := by
        rw [here, List.take_append_drop]
      have behind : path.drop (position + 2) = rest := by
        rw [← List.drop_drop, ← here]
        rfl
      have two : (ascii "%s").length = 2 := rfl
      have total := congrArg List.length cut
      have left := congrArg List.length here
      simp only [List.length_append, List.length_drop, two] at total left
      have before : (path.take position).length = position := by
        rw [List.length_take]
        omega
      have short : (path.take position ++ (hexEncode hash.1 ++ rest)).length < pathSize + 64 := by
        simp only [List.length_append]
        omega
      refine ⟨path.take position ++ (hexEncode hash.1 ++ rest), ?_, Or.inl ⟨path.take position,
        rest, cut, ?_, rfl⟩, short⟩
      · dsimp only
        rw [behind, if_neg (by omega)]
      · intro earlier inside
        exact first earlier (by rwa [before] at inside)

/-- The request is built, too. -/
theorem buildRequest_of_fits {parts : UrlParts} (fits : parts.Fits) (hash : BlockHash) :
    ∃ target, buildRequest parts hash = .ok (requestText parts target) ∧
      Substituted parts.path (hexEncode hash.1) target := by
  rcases buildPath_substituted fits.path fits.clean hash with ⟨target, built, same, short⟩
  have port : (decimalText parts.port.toNat).length ≤ 5 := by
    have bound : parts.port.toNat < 65536 := parts.port.toNat_lt
    exact length_decimalText_le (by decide) (by omega)
  have host := fits.host
  have length : (requestText parts target).length < requestSize := by
    have begin_ : (ascii "GET ").length = 4 := rfl
    have middle : (ascii " HTTP/1.1\r\nHost: ").length = 17 := rfl
    have colon : (ascii ":").length = 1 := rfl
    have ending : (ascii "\r\nConnection: keep-alive\r\n\r\n").length = 28 := rfl
    simp only [requestText, List.length_append, begin_, middle, colon, ending]
    unfold hostSize at host
    unfold pathSize at short
    unfold requestSize
    omega
  refine ⟨target, ?_, same⟩
  rw [buildRequest, built]
  exact if_neg (Nat.not_le.mpr length)

/--
For every URL that the notifier was created with and every hash there is a
request.  Its target is the parsed path with the 64 lower-case digits of the
hash in the place of the first `%s`.
-/
theorem buildRequest_target (url : Memory) (parts : UrlParts) (hash : BlockHash)
    (accepted : parseHttpUrl hostSize pathSize url = some parts) :
    ∃ target, buildRequest parts hash = .ok (requestText parts target) ∧
      Substituted parts.path (hexEncode hash.1) target ∧
      (hexEncode hash.1).length = 64 ∧ ∀ digit ∈ hexEncode hash.1, digit ∈ hexChars := by
  rcases buildRequest_of_fits (fits_of_parseHttpUrl accepted) hash with ⟨target, built, same⟩
  exact ⟨target, built, same, length_hash hash, fun _ => mem_hexChars_of_mem⟩

/-- Only the first of two `%s` is replaced. -/
theorem buildRequest_target_twice :
    ∃ target, buildRequest ⟨ascii "10.0.0.7", 8080, ascii "/b/%s?again=%s"⟩
        (BlockNotify.exampleHash 171) =
        .ok (requestText ⟨ascii "10.0.0.7", 8080, ascii "/b/%s?again=%s"⟩ target) ∧
      Substituted (ascii "/b/%s?again=%s")
        (hexEncode (BlockNotify.exampleHash 171).1) target := by
  rcases buildRequest_target (ascii "http://10.0.0.7:8080/b/%s?again=%s")
    ⟨ascii "10.0.0.7", 8080, ascii "/b/%s?again=%s"⟩ (BlockNotify.exampleHash 171)
    (by decide +kernel) with ⟨target, built, same, -⟩
  exact ⟨target, built, same⟩

end RpcRace.NotifyUrl
