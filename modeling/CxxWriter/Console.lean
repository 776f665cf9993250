/-
  Showing messages to the user.

  How a message looks, and whether the stream that it goes to takes it at all, is
  up to a `Console`.  A stream may be closed, or take other characters than those
  of the message.

  * `Console.present`: shows a message after what has been shown;
  * `Console.presentAll`: shows messages up to one that is refused.
-/

namespace CxxWriter

/-- Where messages go. -/
inductive Stream where
  | out
  | err
deriving DecidableEq, Repr

/-- A text for the user. -/
inductive Message where
  /-- A line in markup, where tags in brackets tell the style. -/
  | markup (s : String)
  /-- A text as it is. -/
  | plain (s : String)
  /-- A source text in a frame with a title in markup. -/
  | framed (title code : String)
deriving DecidableEq, Repr

/-- Why a message is not shown. -/
inductive PrintFault where
  /-- It is no markup. -/
  | badMarkup
  /-- The stream cannot take its characters. -/
  | badCharacter
  | closed
deriving DecidableEq, Repr

/-- What shows messages. -/
structure Console where
  /-- Is the standard output a terminal? -/
  isTerminal : Bool
  /-- Makes a text part of a markup. -/
  escape : String → String
  /-- What is shown of a message on a stream, after the text that has been shown
      there. -/
  print : Stream → String → Message → Except PrintFault String

/-- The texts that have been shown. -/
structure Shown where
  out : String
  err : String
deriving DecidableEq, Repr

namespace Shown

def nothing : Shown := ⟨"", ""⟩

/-- The text on a stream. -/
def on (s : Shown) : Stream → String
  | .out => s.out
  | .err => s.err

/-- Adds a text on a stream. -/
def add (s : Shown) (text : String) : Stream → Shown
  | .out => { s with out := s.out ++ text }
  | .err => { s with err := s.err ++ text }

end Shown

namespace Console

variable (c : Console) (stream : Stream)

/-- Shows a message after what has been shown. -/
def present (m : Message) (s : Shown) : Except PrintFault Shown :=
  (c.print stream (s.on stream) m).map (s.add · stream)

/-- Shows messages in order, up to one that is not shown.  Tells why that is not. -/
def presentAll : List Message → Shown → Shown × Option PrintFault
  | [], s => (s, none)
  | m :: ms, s =>
    match c.present stream m s with
    | .ok s => presentAll ms s
    | .error f => (s, some f)

end Console

end CxxWriter
