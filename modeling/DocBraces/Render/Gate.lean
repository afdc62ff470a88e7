import DocBraces.Braces.Line
import DocBraces.Pattern.Matching

/-!
# The fallback gate

Whether a rendered page left a fenced block unexpanded, so that the source is worth
rendering again, and whether a page is good enough to replace such a page.
-/

set_option autoImplicit false

namespace DocBraces.Render

open DocBraces.Pattern

def occursIn (part : List Char) : List Char → Bool
  | [] => part.isEmpty
  | c :: cs => part.isPrefixOf (c :: cs) || occursIn part cs

def fenceMark : List Char := [tick, tick, tick]

def paragraphFence : List Char := "<p>".toList ++ fenceMark

def hasRawFence (html : List Char) : Bool := occursIn paragraphFence html

def hasCodeBlock (html : List Char) : Bool :=
  occursIn "<pre".toList html && occursIn "<code".toList html

def anyCase : Mode := { ignoreCase := true }

def word : List Char → Expr
  | [] => .empty
  | c :: cs => .seq (.one anyCase (.ofChar c)) (word cs)

def withinTag : Expr := .rounds .greedy 0 none (.one anyCase (.excluding ['>']))

def quoteMark : Expr := .one anyCase (.ofChars ['"', '\''])

def detailsTag : Expr :=
  .seq (word "<details".toList) <| .seq withinTag <| .seq (word "markdown=".toList) <|
    .seq quoteMark <| .seq (word ['1']) <| .seq quoteMark <| .seq withinTag (word ['>'])

def findsFrom (e : Expr) (before : List Char) : List Char → Bool
  | [] => (e.lengthAt? false before []).isSome
  | c :: cs => (e.lengthAt? false before (c :: cs)).isSome || findsFrom e (c :: before) cs

def hasDetails (source : List Char) : Bool := findsFrom detailsTag [] source

/-- The page shows a raw fence, or has no code block although the source has a details
tag that asks for Markdown inside it. -/
def needsFallback (source html : List Char) : Bool :=
  hasRawFence html || (hasDetails source && !hasCodeBlock html)

def improved (html : List Char) : Bool := !hasRawFence html && hasCodeBlock html

end DocBraces.Render
