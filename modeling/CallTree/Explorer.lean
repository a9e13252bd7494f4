/-
# CallTree.Explorer — the page on which call trees can be tried.

The page is a text with two kinds of places to fill: in front of every end of the head goes a script
that tells the page its addresses, and then every mark of the title becomes the title. The second
step looks at the whole page, with the script in it.
-/
import CallTree.Explorer.Page
import CallTree.Json.Printer
import CallTree.Text.Replace

namespace CallTree.Explorer

/-- What a page is filled with. -/
structure Options where
  graphUrl : String := "/graph"
  specUrl : String := "/graph/__spec"
  title : String := "typegraph explorer"

/-- The end of the head. -/
def headEnd : String := "</head>"

/-- The mark of the title. -/
def titleMark : String := "\x7b\x7btitle\x7d\x7d"

/-- The addresses as a document. -/
def addresses (o : Options) : String :=
  "\x7b\"graphUrl\": " ++ Json.quoted true o.graphUrl ++ ", \"specUrl\": " ++
    Json.quoted true o.specUrl ++ "\x7d"

/-- The script that tells a page its addresses. -/
def script (o : Options) : String :=
  "\n    <script>\n        window.TYPEGRAPH_CONFIG = " ++ addresses o ++ ";\n    </script>\n"

/-- **A page with its places filled.** -/
def fill (text : String) (o : Options) : String :=
  Text.replaceAll titleMark o.title
    (Text.replaceAll headEnd (script o ++ headEnd) (Text.ofFile text))

end CallTree.Explorer
