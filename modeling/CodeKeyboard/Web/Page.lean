import CodeKeyboard.Text.Basic

/-!
# The page

The page that a browser shows: an editor with a bar of predicted buttons and a coloured preview. It
is fixed; everything that changes is fetched by its script.
-/

namespace CodeKeyboard.Web.Page

/-- What the page begins with. -/
def start : List Text :=
  ["",
   "<!doctype html>",
   "<html lang=\"en\">",
   "<head>",
   "<meta charset=\"utf-8\" />",
   "<meta name=\"viewport\" content=\"width=device-width,initial-scale=1\" />",
   "<title>SmartKeys • Flask UI</title>"]

/-- How the page looks. -/
def style : List Text :=
  ["<style>",
   ":root\x7b",
   "  --bg:#0b0f14; --panel:#0f141b; --ink:#cfd8e3; --muted:#8a94a6;",
   "  --accent:#6ee7ff; --border:#1c2530;",
   "  --keyword:#c792ea; --builtin:#82aaff; --string:#c3e88d; --comment:#546e7a; --number:#f78c6c;",
   "\x7d",
   "*\x7bbox-sizing:border-box\x7d",
   "body\x7b margin:0; background:var(--bg); color:var(--ink); font:16px/1.45 system-ui,-apple-system,Segoe UI,Roboto,Arial; \x7d",
   ".container\x7b max-width:980px; margin:24px auto; padding:0 16px; \x7d",
   ".card\x7b background:var(--panel); border:1px solid var(--border); border-radius:16px; padding:18px; \x7d",
   "h1\x7b font-size:20px; margin:0 0 8px 0; \x7d",
   ".mono\x7b font-family: ui-monospace, SFMono-Regular, Menlo, Consolas, monospace \x7d",
   "textarea\x7b width:100%; min-height:180px; padding:12px; border-radius:12px; border:1px solid var(--border);",
   "  background:#0b1117; color:var(--ink); font-size:15px; outline:none; \x7d",
   "textarea:focus\x7b border-color:var(--accent) \x7d",
   "select,.btn\x7b padding:8px 12px; border-radius:10px; border:1px solid var(--border); background:#0b1117; color:var(--ink); \x7d",
   ".bar\x7b display:flex; gap:8px; flex-wrap:wrap; margin:12px 0; \x7d",
   ".btn\x7b cursor:pointer \x7d",
   ".btn:hover\x7b border-color:var(--accent) \x7d",
   ".btn small\x7b color:var(--muted); margin-left:6px \x7d",
   "pre\x7b background:#0b1117; border:1px solid var(--border); border-radius:12px; padding:12px; overflow:auto; \x7d",
   ".keyword\x7bcolor:var(--keyword)\x7d .builtin\x7bcolor:var(--builtin)\x7d .string\x7bcolor:var(--string)\x7d",
   ".comment\x7bcolor:var(--comment)\x7d .number\x7bcolor:var(--number)\x7d",
   "</style>"]

/-- What stands on the page. -/
def body : List Text :=
  ["</head>",
   "<body>",
   "  <div class=\"container\">",
   "    <div class=\"card\">",
   "      <h1>SmartKeys</h1>",
   "      <select id=\"lang\"></select>",
   "      <div id=\"bar\" class=\"bar\"></div>",
   "      <textarea id=\"code\" class=\"mono\" spellcheck=\"false\" autofocus></textarea>",
   "      <pre id=\"preview\" class=\"mono\"></pre>",
   "    </div>",
   "  </div>"]

/-- What fetches predictions and tokens while someone types. -/
def refreshing : List Text :=
  ["<script>",
   "const $ = (s) => document.querySelector(s);",
   "const code = $(\"#code\"), bar = $(\"#bar\"), lang = $(\"#lang\"), preview = $(\"#preview\");",
   "let t;",
   "const esc = (s) => s.replace(/&/g,\"&amp;\").replace(/</g,\"&lt;\").replace(/>/g,\"&gt;\");",
   "",
   "async function loadLanguages()\x7b",
   "  const data = await (await fetch(\"/api/languages\")).json();",
   "  lang.innerHTML = data.map(l => `<option value=\"$\x7bl.key\x7d\">$\x7bl.name\x7d</option>`).join(\"\");",
   "\x7d",
   "",
   "async function refresh()\x7b",
   "  const qs = `text=$\x7bencodeURIComponent(code.value)\x7d&cursor=$\x7bcode.selectionStart\x7d&lang=$\x7blang.value\x7d`;",
   "  const pred = await (await fetch(`/api/predict?$\x7bqs\x7d`)).json();",
   "  bar.innerHTML = pred.predictions.map(p =>",
   "    `<button class=\"btn mono\" data-id=\"$\x7bp.id\x7d\">$\x7besc(p.label)\x7d<small>$\x7bp.score\x7d</small></button>`).join(\"\");",
   "  const hl = await (await fetch(\"/api/highlight\", \x7bmethod:\"POST\", headers:\x7b\"Content-Type\":\"application/json\"\x7d,",
   "    body: JSON.stringify(\x7bcode: code.value, lang: lang.value\x7d)\x7d)).json();",
   "  preview.innerHTML = hl.lines.map(line =>",
   "    line.map(tok => `<span class=\"$\x7btok.type\x7d\">$\x7besc(tok.text)\x7d</span>`).join(\"\")).join(\"\\n\");",
   "\x7d",
   ""]

/-- What inserts a button that was tapped, and the end of the page. -/
def tapping : List Text :=
  ["bar.addEventListener(\"click\", async (ev) => \x7b",
   "  const btn = ev.target.closest(\"button\"); if(!btn) return;",
   "  const pos = code.selectionStart;",
   "  const qs = `id=$\x7bbtn.dataset.id\x7d&text=$\x7bencodeURIComponent(code.value)\x7d&cursor=$\x7bpos\x7d&lang=$\x7blang.value\x7d`;",
   "  const data = await (await fetch(`/api/expand?$\x7bqs\x7d`)).json();",
   "  code.value = code.value.slice(0, pos) + data.text + code.value.slice(pos);",
   "  code.selectionStart = code.selectionEnd = pos + data.text.length;",
   "  code.focus(); refresh();",
   "\x7d);",
   "",
   "function debounced()\x7b clearTimeout(t); t = setTimeout(refresh, 120); \x7d",
   "code.addEventListener(\"input\", debounced);",
   "code.addEventListener(\"click\", debounced);",
   "code.addEventListener(\"keyup\", debounced);",
   "lang.addEventListener(\"change\", refresh);",
   "loadLanguages().then(refresh);",
   "</script>",
   "</body>",
   "</html>",
   ""]

/-- The page. -/
def html : Text :=
  Text.ofLines (start ++ style ++ body ++ refreshing ++ tapping)

end CodeKeyboard.Web.Page
