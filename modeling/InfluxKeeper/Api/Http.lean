import InfluxKeeper.Api.Call
import InfluxKeeper.Text.Utf8

/-!
# Requests and answers on the network

A request is sent as octets over a connection of its own, and what comes back until the connection is
closed is read as the answer. Names and values in an address are written with percent signs where they
hold other characters than letters, digits and a few marks.

Main statement: `isPlain_of_mem_percentEncode` says that only percent signs and such characters are left.
-/

namespace InfluxKeeper.Api

open Text

/-! ## Addresses -/

/-- Whether a character stands for itself in an address. -/
def isPlain (c : Char) : Bool := c.isAlphanum || c == '-' || c == '.' || c == '_' || c == '~'

/-- An octet in an address; some marks may be kept as they are. -/
def percentOctet (kept : List Char) (b : UInt8) : List Char :=
  let c := Char.ofNat b.toNat
  if b < 0x80 && (isPlain c || kept.contains c) then [c]
  else '%' :: (hexDigits 2 b.toNat).map Char.toUpper

/-- A text in an address. -/
def percentEncode (kept : List Char) (s : String) : List Char :=
  s.toUTF8.toList.flatMap (percentOctet kept)

/-- A server on the network: its name, the number of its service, and the path that all addresses
start with. -/
structure Place where
  host : String
  service : Nat
  path : String
  deriving DecidableEq, Repr

/-- The place that an address names. Only plain connections are known; the service is 80 unless another one
is given. -/
def Place.ofUrl? (url : String) : Option Place :=
  let scheme := "http://".toList
  if !scheme.isPrefixOf url.toList then none
  else
    let rest := url.toList.drop scheme.length
    let authority := rest.takeWhile (· != '/')
    let path := rest.dropWhile (· != '/')
    let host := authority.takeWhile (· != ':')
    let place (service : Nat) : Place := ⟨String.ofList host, service, String.ofList path⟩
    match authority.dropWhile (· != ':') with
    | [] => if host.isEmpty then none else some (place 80)
    | _ :: digits =>
      if host.isEmpty || digits.isEmpty || !digits.all isAsciiDigit then none
      else some (place (digitsValue digits))

/-! ## Requests -/

/-- The path and query of a request at a place. -/
def Request.target (r : Request) (p : Place) : List Char :=
  let field (f : String × Value) : List Char :=
    percentEncode [] f.1 ++ '=' :: percentEncode [] f.2.shown
  let query := match r.query with
    | [] => []
    | fields => '?' :: ['&'].intercalate (fields.map field)
  percentEncode ['/', '%', ':', '@'] p.path ++ query

/-- A request as octets, for a place. -/
def Request.octets (r : Request) (p : Place) : ByteArray :=
  let body := if r.body.isNull then "" else Json.write r.body
  let headers := [("Host", p.host ++ ":" ++ toString p.service)] ++ r.headers ++
    (if r.body.isNull then [] else [("Content-Type", "application/json")]) ++
    [("Content-Length", toString body.utf8ByteSize), ("Connection", "close")]
  let head := (r.method ++ " " ++ String.ofList (r.target p) ++ " HTTP/1.1") ::
    headers.map fun h => h.1 ++ ": " ++ h.2
  ("\r\n".intercalate head ++ "\r\n\r\n" ++ body).toUTF8

/-! ## Answers -/

/-- The characters of octets, one for each. -/
def latin (octets : List UInt8) : List Char := octets.map fun b => Char.ofNat b.toNat

/-- The octets up to a line end, and those after it. -/
def takeLine : List UInt8 → List UInt8 × List UInt8
  | 13 :: 10 :: rest => ([], rest)
  | b :: rest =>
    let (line, rest) := takeLine rest
    (b :: line, rest)
  | [] => ([], [])

/-- The lines up to an empty one, and the octets after it. The fuel bounds their number. -/
def takeHead : Nat → List UInt8 → List (List Char) × List UInt8
  | 0, octets => ([], octets)
  | fuel + 1, octets =>
    match takeLine octets with
    | ([], rest) => ([], rest)
    | (line, rest) =>
      let (lines, rest) := takeHead fuel rest
      (latin line :: lines, rest)

/-- A body that comes in chunks, each after its length. The fuel bounds their number. -/
def joinChunks : Nat → List UInt8 → List UInt8
  | 0, _ => []
  | fuel + 1, octets =>
    let (line, rest) := takeLine octets
    match Json.hexValue? ((latin line).takeWhile fun c => (Json.hexDigit? c).isSome) with
    | some 0 => []
    -- a chunk ends with a line end of its own
    | some n => rest.take n ++ joinChunks fuel (rest.drop (n + 2))
    | none => []

/-- The value of a header line of a name in small letters. -/
def headerValue? (name : String) (lines : List (List Char)) : Option (List Char) :=
  lines.findSome? fun line =>
    let key := line.takeWhile (· != ':')
    if key.map Char.toLower = name.toList then
      some (strip isWhiteSpace ((line.dropWhile (· != ':')).drop 1))
    else none

/-- The status in the first line of an answer. -/
def statusOf? (line : List Char) : Option Nat :=
  let digits := ((line.dropWhile (· != ' ')).drop 1).takeWhile isAsciiDigit
  if "HTTP/".toList.isPrefixOf line && digits.length == 3 then some (digitsValue digits) else none

/-- The answer that octets are. -/
def Answer.ofOctets (octets : List UInt8) : Answer :=
  match takeHead (octets.length + 1) octets with
  | ([], _) => .unreachable "Server disconnected"
  | (first :: headers, rest) =>
    match statusOf? first with
    | none => .unreachable "Bad status line"
    | some status =>
      let chunked := (headerValue? "transfer-encoding" headers).any fun v =>
        v.map Char.toLower == "chunked".toList
      let body :=
        if chunked then joinChunks (rest.length + 1) rest
        else
          match headerValue? "content-length" headers with
          | some digits => rest.take (digitsValue digits)
          | none => rest
      match Utf8.decode body with
      | .ok text => .response status (String.ofList text)
      | .error e => .unreachable e.message

/-- Only percent signs, kept marks and characters that stand for themselves are left. -/
theorem isPlain_of_mem_percentEncode {kept : List Char} {s : String} {c : Char}
    (h : c ∈ percentEncode kept s) : isPlain c = true ∨ c ∈ kept ∨ c = '%' := by
  simp only [percentEncode, List.mem_flatMap] at h
  obtain ⟨b, -, hc⟩ := h
  have digits : ∀ n < 256, ((hexDigits 2 n).map Char.toUpper).all isPlain = true := by decide +kernel
  simp only [percentOctet] at hc
  split at hc
  · rename_i hb
    simp only [Bool.and_eq_true, Bool.or_eq_true, List.contains_iff_mem] at hb
    simp only [List.mem_singleton] at hc
    subst hc
    rcases hb.2 with hp | hk
    · exact .inl hp
    · exact .inr (.inl hk)
  · rcases List.mem_cons.1 hc with rfl | hx
    · exact .inr (.inr rfl)
    · exact .inl (List.all_eq_true.1 (digits b.toNat b.toNat_lt) c hx)

end InfluxKeeper.Api
