/-
# CallTree.Explorer.Page — the page that comes with the library.

A page with a field for a call tree, its result, and the description of the registry. Where the
title belongs, the page holds a mark; the addresses come from a script that is put in front of the
end of the head (`CallTree.Explorer`).
-/

namespace CallTree.Explorer

/-- The lines of the page. -/
def pageLines : List String := [
  "<!doctype html>",
  "<html lang=\"en\">",
  "<head>",
  "  <meta charset=\"utf-8\">",
  "  <title>\x7b\x7btitle\x7d\x7d</title>",
  "  <style>",
  "    body \x7b font-family: system-ui, sans-serif; margin: 0; display: flex; height: 100vh; \x7d",
  "    section \x7b flex: 1; display: flex; flex-direction: column; padding: 12px; box-sizing: border-box; \x7d",
  "    textarea, pre \x7b flex: 1; font-family: ui-monospace, monospace; font-size: 13px; margin: 0; \x7d",
  "    pre \x7b background: #f5f5f5; padding: 8px; overflow: auto; \x7d",
  "    header \x7b display: flex; gap: 8px; align-items: center; margin-bottom: 8px; \x7d",
  "    #spec \x7b max-height: 35vh; flex: none; \x7d",
  "  </style>",
  "</head>",
  "<body>",
  "  <section>",
  "    <header>",
  "      <strong>\x7b\x7btitle\x7d\x7d</strong>",
  "      <button id=\"run\">Run</button>",
  "    </header>",
  "    <textarea id=\"graph\" spellcheck=\"false\">[\"::compose\"]</textarea>",
  "  </section>",
  "  <section>",
  "    <header><strong>Result</strong></header>",
  "    <pre id=\"result\"></pre>",
  "    <header><strong>Spec</strong></header>",
  "    <pre id=\"spec\"></pre>",
  "  </section>",
  "  <script>",
  "    (function () \x7b",
  "      var config = window.TYPEGRAPH_CONFIG || \x7b graphUrl: \"/graph\", specUrl: \"/graph/__spec\" \x7d;",
  "      var graphInput = document.getElementById(\"graph\");",
  "      var resultOut = document.getElementById(\"result\");",
  "",
  "      fetch(config.specUrl)",
  "        .then(function (res) \x7b return res.json(); \x7d)",
  "        .then(function (spec) \x7b",
  "          document.getElementById(\"spec\").textContent = JSON.stringify(spec, null, 2);",
  "        \x7d);",
  "",
  "      document.getElementById(\"run\").addEventListener(\"click\", function () \x7b",
  "        resultOut.textContent = \"...\";",
  "        fetch(config.graphUrl, \x7b",
  "          method: \"POST\",",
  "          headers: \x7b \"Content-Type\": \"application/json\" \x7d,",
  "          body: graphInput.value",
  "        \x7d)",
  "          .then(function (res) \x7b return res.json(); \x7d)",
  "          .then(function (body) \x7b resultOut.textContent = JSON.stringify(body, null, 2); \x7d)",
  "          .catch(function (err) \x7b resultOut.textContent = String(err); \x7d);",
  "      \x7d);",
  "    \x7d)();",
  "  </script>",
  "</body>",
  "</html>"]

/-- **The page.** -/
def page : String := String.join (pageLines.map (· ++ "\n"))

end CallTree.Explorer
