/-!
# Styled text

A text is put together from spans.  A span may be emphasised, which shows only where colour is
asked for.
-/

namespace ProjectAudit

inductive Emphasis where
  | bold
  | dimmed
  | red
  | green
  deriving DecidableEq

namespace Emphasis

def start : Emphasis → Nat
  | .bold => 1
  | .dimmed => 2
  | .red => 31
  | .green => 32

def stop : Emphasis → Nat
  | .bold | .dimmed => 0
  | .red | .green => 39

end Emphasis

/-- the terminal's sequence that selects a graphic rendition -/
def rendition (code : Nat) : String := "\x1b[" ++ toString code ++ "m"

structure Span where
  emphasis : Option Emphasis
  text : String

namespace Span

def plain (text : String) : Span := ⟨none, text⟩

def bold (text : String) : Span := ⟨some .bold, text⟩

def dimmed (text : String) : Span := ⟨some .dimmed, text⟩

def red (text : String) : Span := ⟨some .red, text⟩

def green (text : String) : Span := ⟨some .green, text⟩

def render (colour : Bool) (s : Span) : String :=
  match colour, s.emphasis with
  | true, some e => rendition e.start ++ s.text ++ rendition e.stop
  | _, _ => s.text

end Span

def renderSpans (colour : Bool) (spans : List Span) : String :=
  String.join (spans.map (·.render colour))

end ProjectAudit
