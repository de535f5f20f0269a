import SoundControl.Packet
import SoundControl.Error
import SoundControl.Text.Quoted

/-! # Reading packets

Reading the wire form back. Each reader takes the bytes still unread and `stop`, the absolute
offset at which its region ends, so that every error names an absolute position. -/

namespace SoundControl.Wire.Decode

/-- A decoding failure at an absolute offset. -/
def decodeError (offset : Nat) (fault : Fault) (detail : String) : Error :=
  { stage := .decode, fault := fault, detail := detail, offset := some offset }

/-- The failure for a field that needs `n` bytes where only `bs.length` are left. -/
def shortError (stop n : Nat) (field : String) (bs : Bytes) : Error :=
  decodeError (stop - bs.length) .unexpectedEnd
    (field ++ ": need " ++ toString n ++ " bytes, have " ++ toString bs.length)

/-- Reads `n` bytes. -/
def take (stop n : Nat) (field : String) (bs : Bytes) : Except Error (Bytes × Bytes) :=
  if n ≤ bs.length then .ok (bs.take n, bs.drop n) else .error (shortError stop n field bs)

/-- Reads a 32-bit word. -/
def word32 (stop : Nat) (field : String) : Bytes → Except Error (UInt32 × Bytes)
  | a :: b :: c :: d :: rest => .ok (Bytes.word32 a b c d, rest)
  | bs => .error (shortError stop 4 field bs)

/-- Reads a 64-bit word. -/
def word64 (stop : Nat) (field : String) : Bytes → Except Error (UInt64 × Bytes)
  | a :: b :: c :: d :: e :: f :: g :: h :: rest =>
    .ok (Bytes.word64 (Bytes.word32 a b c d) (Bytes.word32 e f g h), rest)
  | bs => .error (shortError stop 8 field bs)

/-- The index of the first non-zero byte. -/
def firstNonZero? (bs : Bytes) : Option Nat := bs.findIdx? (· != 0)

/-- Reads a string up to its NUL and the padding after it. -/
def paddedString (stop : Nat) (field : String) (bs : Bytes) : Except Error (Bytes × Bytes) :=
  let start := stop - bs.length
  match bs.idxOf? 0 with
  | none => .error (decodeError start .unexpectedEnd (field ++ ": missing NUL terminator"))
  | some pos =>
    let n := pos + 1 + Bytes.padding (pos + 1)
    if bs.length < n then
      .error (decodeError start .unexpectedEnd (field ++ ": padding truncated"))
    else
      match firstNonZero? ((bs.take n).drop (pos + 1)) with
      | some i => .error (decodeError (start + pos + 1 + i) .malformedPadding
          (field ++ ": non-zero padding byte"))
      | none => .ok (bs.take pos, bs.drop n)

/-- Reads a string that must be valid UTF-8. -/
def text (stop : Nat) (field : String) (bs : Bytes) : Except Error (Bytes × Bytes) := do
  let (s, rest) ← paddedString stop field bs
  if Utf8.valid s then pure (s, rest)
  else .error (decodeError (stop - bs.length) .invalidString (field ++ ": invalid UTF-8"))

/-- Reads the NULs that bring a region of `n` bytes to a multiple of four. -/
def skipPadding (stop n : Nat) (field : String) (bs : Bytes) : Except Error Bytes := do
  let (pad, rest) ← take stop (Bytes.padding n) (field ++ " padding") bs
  match firstNonZero? pad with
  | some i => .error (decodeError (stop - bs.length + i) .malformedPadding
      (field ++ ": non-zero padding byte"))
  | none => pure rest

/-- Reads a blob: its length, its bytes and its padding. -/
def blob (stop : Nat) (bs : Bytes) : Except Error (Bytes × Bytes) := do
  let (len, rest) ← word32 stop "blob length" bs
  if rest.length < len.toNat then
    .error (decodeError (stop - rest.length) .unexpectedEnd
      ("blob length " ++ toString len.toNat ++ " exceeds remaining " ++ toString rest.length))
  else
    let after ← skipPadding stop len.toNat "blob" (rest.drop len.toNat)
    pure (rest.take len.toNat, after)

/-- Reads the payload of an argument with type tag `tag`. -/
def argument (stop : Nat) (tag : UInt8) (bs : Bytes) : Except Error (Argument × Bytes) :=
  if tag = 0x69 then (word32 stop "int32" bs).map fun (w, r) => (.int32 w.toInt32, r)
  else if tag = 0x66 then (word32 stop "float32" bs).map fun (w, r) => (.float32 w, r)
  else if tag = 0x73 then (text stop "string" bs).map fun (s, r) => (.string s, r)
  else if tag = 0x62 then (blob stop bs).map fun (d, r) => (.blob (.ofList d), r)
  else .error (decodeError (stop - bs.length) .unsupportedType
    ("type tag " ++ Quoted.quoteCode tag.toNat))

/-- Reads the payloads for the type tags `tags`, the first of which has index `i`. -/
def arguments (stop : Nat) (i : Nat) :
    List UInt8 → Bytes → Except Error (List (Option Argument) × Bytes)
  | [], bs => .ok ([], bs)
  | t :: ts, bs =>
    match argument stop t bs with
    | .error e => .error (e.atArgument i)
    | .ok (a, rest) => (arguments stop (i + 1) ts rest).map fun (as, r) => (some a :: as, r)

/-- Reads the type tag string and the payloads it announces. -/
def typedArguments (stop : Nat) (bs : Bytes) :
    Except Error (List (Option Argument) × Bytes) :=
  let start := stop - bs.length
  match paddedString stop "type tag string" bs with
  | .error e =>
    .error (if e.fault = .malformedPadding then { e with fault := .invalidTypeTags } else e)
  | .ok (tags, rest) =>
    match tags with
    | 0x2C :: letters => arguments stop 0 letters rest
    | _ => .error (decodeError start .invalidTypeTags
        (Quoted.quote tags ++ " does not start with ','"))

/-- Reads a message that fills the region. -/
def message (stop : Nat) (bs : Bytes) : Except Error Message := do
  let (address, rest) ← text stop "address" bs
  let (args, rest) ← typedArguments stop rest
  if rest.isEmpty then pure { address := address, arguments := .ofItems args }
  else .error (decodeError (stop - rest.length) .trailingData
    (toString rest.length ++ " bytes"))

/-- Whether the bytes start with the bundle marker. -/
def startsWithMarker (bs : Bytes) : Bool := bs.take 8 == bundleMarker

theorem length_lt_of_drop_eq {bs rest : Bytes} {k : Nat} (xs : Bytes)
    (h : bs.drop k = xs ++ rest) (hx : 0 < xs.length) : rest.length < bs.length := by
  have := congrArg List.length h
  simp only [List.length_drop, List.length_append] at this
  omega

mutual

/-- Reads a packet that fills the region, at nesting level `depth` under the limit `limit`:
a bundle when the region starts with the bundle marker, a message otherwise. -/
def packet (limit depth stop : Nat) (bs : Bytes) : Except Error Packet :=
  if startsWithMarker bs then bundle limit depth stop bs
  else (message stop bs).map .message
termination_by (bs.length, 1)
decreasing_by exact Prod.Lex.right _ (Nat.lt_succ_self 0)

/-- Reads a bundle that fills the region, at nesting level `depth`: the level is checked before
the marker is read. -/
def bundle (limit depth stop : Nat) (bs : Bytes) : Except Error Packet :=
  if depth > limit then
    .error (decodeError (stop - bs.length) .depthExceeded ("limit " ++ toString limit))
  else if bs.length < 8 then .error (shortError stop 8 "bundle marker" bs)
  else if bs.take 8 != bundleMarker then
    .error (decodeError (stop - bs.length) .invalidBundleMarker (Quoted.quote (bs.take 8)))
  else
    match _h : bs.drop 8 with
    | a :: b :: c :: d :: e :: f :: g :: k :: rest =>
      (elements limit depth stop 0 rest).map fun els =>
        .bundle ⟨Bytes.word64 (Bytes.word32 a b c d) (Bytes.word32 e f g k)⟩ els
    | more => .error (shortError stop 8 "time tag" more)
termination_by (bs.length, 0)
decreasing_by
  exact Prod.Lex.left _ _ (length_lt_of_drop_eq [a, b, c, d, e, f, g, k] _h (Nat.succ_pos _))

/-- Reads size-prefixed elements of a bundle at level `depth` until the region ends; the first
has index `i`. -/
def elements (limit depth stop i : Nat) (bs : Bytes) : Except Error (List Packet) :=
  match _hb : bs with
  | [] => .ok []
  | a :: b :: c :: d :: rest =>
    let size := (Bytes.word32 a b c d).toNat
    if rest.length < size then
      .error ((decodeError (stop - rest.length) .unexpectedEnd
        ("element size " ++ toString size ++ " exceeds remaining " ++ toString rest.length)).inElement i)
    else
      match packet limit (depth + 1) (stop - rest.length + size) (rest.take size) with
      | .error e => .error (e.inElement i)
      | .ok p => (elements limit depth stop (i + 1) (rest.drop size)).map (p :: ·)
  | more => .error ((shortError stop 4 "element size" more).inElement i)
termination_by (bs.length, 0)
decreasing_by
  all_goals subst _hb
  · exact Prod.Lex.left _ _ (Nat.lt_of_le_of_lt (List.length_take_le _ _) (by
      rw [List.length_cons, List.length_cons, List.length_cons, List.length_cons]
      omega))
  · exact Prod.Lex.left _ _ (by
      rw [List.length_drop, List.length_cons, List.length_cons, List.length_cons,
        List.length_cons]
      omega)

end

end SoundControl.Wire.Decode
