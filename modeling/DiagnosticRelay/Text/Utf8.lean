import DiagnosticRelay.Text.Quoted

/-!
# UTF-8

Octets become text here, and text octets.  Decoding is described once, by `pieces`:
the octets are cut from the left into well-formed scalar values and *flaws*, and
every reader of octets is a way of treating the flaws.  The strict reader stops at
the first, the lenient ones put U+FFFD in its place or leave it out.

A flaw is as wide as the longest beginning of a well-formed sequence that stands at
its place, but at least one octet.  So three different things can be wrong: the
octet cannot start a sequence, the sequence is interrupted by an octet that cannot
continue it, or the octets end too early.  Overlong forms, surrogates and numbers
past U+10FFFF are interrupted sequences, because their second octet is out of range.

## The skip counter

`pieces` recurses on the list itself and carries the number of octets still to be
passed over, rather than dropping a whole sequence at a time.  The recursion is then
structural, and a proof about it is an induction on the octets.
-/

namespace DiagnosticRelay

namespace Utf8

/-- The octets of a scalar value. -/
def encodeChar (c : Char) : List UInt8 :=
  let n := c.toNat
  if n < 0x80 then [.ofNat n]
  else if n < 0x800 then [.ofNat (0xC0 + n / 64), .ofNat (0x80 + n % 64)]
  else if n < 0x10000 then
    [.ofNat (0xE0 + n / 4096), .ofNat (0x80 + n / 64 % 64), .ofNat (0x80 + n % 64)]
  else
    [.ofNat (0xF0 + n / 262144), .ofNat (0x80 + n / 4096 % 64), .ofNat (0x80 + n / 64 % 64),
      .ofNat (0x80 + n % 64)]

/-- The octets of a text, if it holds no surrogate half. -/
def encode? : Text → Option (List UInt8)
  | [] => some []
  | .char c :: rest => (encode? rest).map (encodeChar c ++ ·)
  | .surrogate _ :: _ => none

@[simp] theorem encode?_nil : encode? [] = some [] := rfl

/-- The octets of a text with each surrogate half written as the three octets of its number. -/
def encodeLoose : Text → List UInt8
  | [] => []
  | .char c :: rest => encodeChar c ++ encodeLoose rest
  | .surrogate half :: rest =>
    let n := 0xD800 + half.val
    [.ofNat (0xE0 + n / 4096), .ofNat (0x80 + n / 64 % 64), .ofNat (0x80 + n % 64)]
      ++ encodeLoose rest

/-- What can be wrong at a place in a sequence of octets. -/
inductive Flaw where
  | badStart
  | badContinuation
  | truncated
  deriving DecidableEq

/-- A flaw in words. -/
def Flaw.description : Flaw → Text
  | .badStart => text "invalid start byte"
  | .badContinuation => text "invalid continuation byte"
  | .truncated => text "unexpected end of data"

/-- What stands at the head of a nonempty list of octets, and how many octets it takes. -/
inductive Piece where
  | scalar (c : Char) (width : Nat)
  | flaw (flaw : Flaw) (width : Nat)
  deriving DecidableEq

/-- How many octets a piece takes. -/
def Piece.width : Piece → Nat
  | .scalar _ width => width
  | .flaw _ width => width

/-- Whether an octet can continue a sequence. -/
def isContinuation (octet : Nat) : Bool := 0x80 ≤ octet && octet < 0xC0

/-- Whether the second octet of a sequence of three fits its first. -/
def fitsThree (lead second : Nat) : Bool :=
  isContinuation second
    && (lead != 0xE0 || 0xA0 ≤ second) && (lead != 0xED || second < 0xA0)

/-- Whether the second octet of a sequence of four fits its first. -/
def fitsFour (lead second : Nat) : Bool :=
  isContinuation second
    && (lead != 0xF0 || 0x90 ≤ second) && (lead != 0xF4 || second < 0x90)

/-- The piece that starts with the given octet and goes on with the given rest. -/
def pieceAt (lead : UInt8) (rest : List UInt8) : Piece :=
  let a := lead.toNat
  if a < 0x80 then .scalar (Char.ofNat a) 1
  else if a < 0xC2 then .flaw .badStart 1
  else if a < 0xE0 then
    match rest with
    | [] => .flaw .truncated 1
    | b :: _ =>
      let b := b.toNat
      if isContinuation b then .scalar (Char.ofNat ((a - 0xC0) * 64 + (b - 0x80))) 2
      else .flaw .badContinuation 1
  else if a < 0xF0 then
    match rest with
    | [] => .flaw .truncated 1
    | b :: rest =>
      let b := b.toNat
      if fitsThree a b then
        match rest with
        | [] => .flaw .truncated 2
        | c :: _ =>
          let c := c.toNat
          if isContinuation c then
            .scalar (Char.ofNat ((a - 0xE0) * 4096 + (b - 0x80) * 64 + (c - 0x80))) 3
          else .flaw .badContinuation 2
      else .flaw .badContinuation 1
  else if a < 0xF5 then
    match rest with
    | [] => .flaw .truncated 1
    | b :: rest =>
      let b := b.toNat
      if fitsFour a b then
        match rest with
        | [] => .flaw .truncated 2
        | c :: rest =>
          let c := c.toNat
          if isContinuation c then
            match rest with
            | [] => .flaw .truncated 3
            | d :: _ =>
              let d := d.toNat
              if isContinuation d then
                .scalar (Char.ofNat
                  ((a - 0xF0) * 262144 + (b - 0x80) * 4096 + (c - 0x80) * 64 + (d - 0x80))) 4
              else .flaw .badContinuation 3
          else .flaw .badContinuation 2
      else .flaw .badContinuation 1
  else .flaw .badStart 1

/-- The pieces of a list of octets, after the given number of octets was passed over. -/
def pieces : Nat → List UInt8 → List Piece
  | _, [] => []
  | skip + 1, _ :: rest => pieces skip rest
  | 0, lead :: rest =>
    let piece := pieceAt lead rest
    piece :: pieces (piece.width - 1) rest

/-- The first flaw of a list of octets, with its place and its octets. -/
structure Failure where
  flaw : Flaw
  start : Nat
  octets : List UInt8
  deriving DecidableEq

/-- A failure in words: the octet or the range of places, and what is wrong. -/
def Failure.message (failure : Failure) : Text :=
  let place := match failure.octets with
    | [octet] =>
      text "byte 0x" ++ Text.hexDigits 2 octet.toNat ++ text " in position "
        ++ text (toString failure.start)
    | octets =>
      text "bytes in position " ++ text (toString failure.start) ++ [.char '-']
        ++ text (toString (failure.start + octets.length - 1))
  text "'utf-8' codec can't decode " ++ place ++ text ": " ++ failure.flaw.description

/-- The strict reader, told the place of its first octet and how many octets to pass over. -/
def decodeFrom : Nat → Nat → List UInt8 → Except Failure Text
  | _, _, [] => .ok []
  | place, skip + 1, _ :: rest => decodeFrom (place + 1) skip rest
  | place, 0, lead :: rest =>
    match pieceAt lead rest with
    | .scalar c width => (decodeFrom (place + 1) (width - 1) rest).map (.char c :: ·)
    | .flaw flaw width => .error ⟨flaw, place, (lead :: rest).take width⟩

/-- The text of a list of octets that has no flaw. -/
def decode (octets : List UInt8) : Except Failure Text := decodeFrom 0 0 octets

/-- The text of a list of octets, with U+FFFD for each flaw. -/
def decodeReplacing (octets : List UInt8) : Text :=
  (pieces 0 octets).map fun piece => match piece with
    | .scalar c _ => .char c
    | .flaw _ _ => .char '\uFFFD'

/-- The text of a list of octets without its flaws. -/
def decodeIgnoring (octets : List UInt8) : Text :=
  (pieces 0 octets).filterMap fun piece => match piece with
    | .scalar c _ => some (.char c)
    | .flaw _ _ => none

end Utf8

end DiagnosticRelay
