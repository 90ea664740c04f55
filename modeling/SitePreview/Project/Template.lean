import SitePreview.FileSet
import SitePreview.Validation.Given

/-! Starter templates: the files of a project that is created without any. -/

namespace SitePreview

namespace ReactTemplate

def packageManifest : Text := .ofStrings [
  "\x7b",
  "  \"name\": \"livepreview-project\",",
  "  \"type\": \"module\",",
  "  \"scripts\": \x7b",
  "    \"dev\": \"vite --host 0.0.0.0 --port 3000\",",
  "    \"build\": \"vite build\",",
  "    \"preview\": \"vite preview --host 0.0.0.0 --port 3000\"",
  "  \x7d,",
  "  \"dependencies\": \x7b",
  "    \"react\": \"^18.3.1\",",
  "    \"react-dom\": \"^18.3.1\"",
  "  \x7d,",
  "  \"devDependencies\": \x7b",
  "    \"@vitejs/plugin-react\": \"^4.3.1\",",
  "    \"vite\": \"^5.4.0\"",
  "  \x7d",
  "\x7d"]

def bundlerConfig : Text := .ofStrings [
  "import \x7b defineConfig \x7d from 'vite'",
  "import react from '@vitejs/plugin-react'",
  "",
  "export default defineConfig(\x7b",
  "  plugins: [react()],",
  "\x7d)",
  ""]

def page : Text := .ofStrings [
  "<!DOCTYPE html>",
  "<html lang=\"en\">",
  "  <head>",
  "    <meta charset=\"UTF-8\" />",
  "    <meta name=\"viewport\" content=\"width=device-width, initial-scale=1.0\" />",
  "    <title>Live Preview Project</title>",
  "  </head>",
  "  <body>",
  "    <div id=\"root\"></div>",
  "    <script type=\"module\" src=\"/src/main.jsx\"></script>",
  "  </body>",
  "</html>",
  ""]

def entryPoint : Text := .ofStrings [
  "import React from 'react'",
  "import ReactDOM from 'react-dom/client'",
  "import App from './App'",
  "import './index.css'",
  "",
  "ReactDOM.createRoot(document.getElementById('root')).render(",
  "  <React.StrictMode>",
  "    <App />",
  "  </React.StrictMode>",
  ")",
  ""]

def rootComponent : Text := .ofStrings [
  "import \x7b useState \x7d from 'react'",
  "",
  "function App() \x7b",
  "  const [count, setCount] = useState(0)",
  "",
  "  return (",
  "    <div style=\x7b\x7b padding: '2rem', fontFamily: 'system-ui' \x7d\x7d>",
  "      <h1>Live preview</h1>",
  "      <p>Edit src/App.jsx to see changes.</p>",
  "      <button onClick=\x7b() => setCount(c => c + 1)\x7d>",
  "        Count: \x7bcount\x7d",
  "      </button>",
  "    </div>",
  "  )",
  "\x7d",
  "",
  "export default App",
  ""]

def styles : Text := .ofStrings [
  "* \x7b",
  "  margin: 0;",
  "  padding: 0;",
  "  box-sizing: border-box;",
  "\x7d",
  "",
  "body \x7b",
  "  min-height: 100vh;",
  "  background: #1a1a2e;",
  "  color: white;",
  "\x7d",
  ""]

def files : FileSet := .ofList [
  ("package.json", packageManifest),
  ("vite.config.js", bundlerConfig),
  ("index.html", page),
  ("src/main.jsx", entryPoint),
  ("src/App.jsx", rootComponent),
  ("src/index.css", styles)]

end ReactTemplate

namespace VanillaTemplate

def page : Text := .ofStrings [
  "<!DOCTYPE html>",
  "<html lang=\"en\">",
  "<head>",
  "  <meta charset=\"UTF-8\">",
  "  <meta name=\"viewport\" content=\"width=device-width, initial-scale=1.0\">",
  "  <title>Live Preview Project</title>",
  "  <link rel=\"stylesheet\" href=\"style.css\">",
  "</head>",
  "<body>",
  "  <div class=\"container\">",
  "    <h1>Live preview</h1>",
  "    <button id=\"counter\">Click me: 0</button>",
  "  </div>",
  "  <script src=\"script.js\"></script>",
  "</body>",
  "</html>",
  ""]

def styles : Text := .ofStrings [
  "body \x7b",
  "  min-height: 100vh;",
  "  display: flex;",
  "  align-items: center;",
  "  justify-content: center;",
  "  font-family: system-ui;",
  "\x7d",
  "",
  ".container \x7b",
  "  text-align: center;",
  "\x7d",
  ""]

def script : Text := .ofStrings [
  "let count = 0;",
  "const button = document.getElementById('counter');",
  "",
  "button.addEventListener('click', () => \x7b",
  "  count++;",
  "  button.textContent = \x60Click me: $\x7bcount\x7d\x60;",
  "\x7d);",
  ""]

def files : FileSet := .ofList [
  ("index.html", page),
  ("style.css", styles),
  ("script.js", script)]

end VanillaTemplate

inductive Template
  | react
  | vanilla
deriving DecidableEq

namespace Template

/-- The templates in the order of their names. -/
def all : List Template := [react, vanilla]

def name : Template → Text
  | react => "react-vite"
  | vanilla => "vanilla-js"

def files : Template → FileSet
  | react => ReactTemplate.files
  | vanilla => VanillaTemplate.files

/-- The template that is asked for: the component template if none is, and the plain one for what no
template is named. -/
def resolve (asked : Given) : Template :=
  if asked.isNothing then react
  else
    match asked with
    | .text t => (all.find? fun p => p.name = t).getD vanilla
    | _ => vanilla

end Template

end SitePreview
