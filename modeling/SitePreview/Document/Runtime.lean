import SitePreview.Text.Basic

/-! The fixed texts of preview documents: the script that relays messages to the embedding page, the
baseline style, and what component files find in scope. -/

namespace SitePreview.Document

/-- The style under the project's own styles. -/
def baselineCss : Text := .ofStrings [
  "*, *::before, *::after \x7b box-sizing: border-box; margin: 0; padding: 0; \x7d",
  "body \x7b font-family: -apple-system, BlinkMacSystemFont, 'Segoe UI', Roboto, " ++
      "sans-serif; line-height: 1.5; \x7d"]

/-- The script that relays console messages and uncaught errors to the embedding page. -/
def diagnosticsScript : Text := .ofStrings [
  "(function () \x7b",
  "  var SOURCE = \"preview-console\";",
  "  function format(value) \x7b",
  "    if (value instanceof Error) \x7b return value.stack || value.message; \x7d",
  "    if (value !== null && typeof value === \"object\") \x7b",
  "      try \x7b return JSON.stringify(value); \x7d catch (e) \x7b return String(value); \x7d",
  "    \x7d",
  "    return String(value);",
  "  \x7d",
  "  function post(type, args) \x7b",
  "    try \x7b",
  "      window.parent.postMessage(\x7b",
  "        source: SOURCE,",
  "        type: type,",
  "        message: Array.prototype.map.call(args, format).join(\" \"),",
  "        timestamp: Date.now()",
  "      \x7d, \"*\");",
  "    \x7d catch (e) \x7b\x7d",
  "  \x7d",
  "  [\"log\", \"info\", \"warn\", \"error\", \"debug\"].forEach(function (level) \x7b",
  "    var original = console[level];",
  "    console[level] = function () \x7b",
  "      if (original) \x7b original.apply(console, arguments); \x7d",
  "      post(level, arguments);",
  "    \x7d;",
  "  \x7d);",
  "  window.addEventListener(\"error\", function (event) \x7b",
  "    post(\"error\", [event.message + " ++
    "(event.lineno ? \" (line \" + event.lineno + \")\" : \"\")]);",
  "  \x7d);",
  "  window.addEventListener(\"unhandledrejection\", function (event) \x7b",
  "    var reason = event.reason;",
  "    post(\"error\", [\"Unhandled Promise: \" + " ++
    "(reason && reason.message ? reason.message : reason)]);",
  "  \x7d);",
  "\x7d)();"]

/-- The bindings of the component library's functions. -/
def hookBindings : Text := .ofStrings [
  "var \x7b useState, useEffect, useRef, useMemo, useCallback, useReducer, useContext, " ++
      "createContext, useLayoutEffect, Fragment \x7d = React;"]

/-- A router over the fragment of the address, with the usual names. -/
def hashRouter : Text := .ofStrings [
  "var __routeListeners = new Set();",
  "function __currentRoute() \x7b",
  "  var hash = window.location.hash.replace(/^#/, \"\");",
  "  if (!hash) \x7b return \"/\"; \x7d",
  "  return hash.charAt(0) === \"/\" ? hash : \"/\" + hash;",
  "\x7d",
  "window.addEventListener(\"hashchange\", function () \x7b",
  "  var route = __currentRoute();",
  "  __routeListeners.forEach(function (listener) \x7b listener(route); \x7d);",
  "\x7d);",
  "function __matchRoute(pattern, route) \x7b",
  "  if (pattern === undefined || pattern === null || pattern === \"*\") \x7b return true; \x7d",
  "  var wanted = String(pattern).split(\"/\").filter(Boolean);",
  "  var actual = route.split(\"/\").filter(Boolean);",
  "  if (wanted.length && wanted[wanted.length - 1] === \"*\") \x7b",
  "    wanted = wanted.slice(0, -1);",
  "    if (actual.length < wanted.length) \x7b return false; \x7d",
  "    actual = actual.slice(0, wanted.length);",
  "  \x7d",
  "  if (wanted.length !== actual.length) \x7b return false; \x7d",
  "  for (var i = 0; i < wanted.length; i++) \x7b",
  "    if (wanted[i].charAt(0) !== \":\" && wanted[i] !== actual[i]) \x7b return false; \x7d",
  "  \x7d",
  "  return true;",
  "\x7d",
  "var useRoute = function () \x7b",
  "  var state = React.useState(__currentRoute());",
  "  React.useEffect(function () \x7b",
  "    var listener = state[1];",
  "    __routeListeners.add(listener);",
  "    return function () \x7b __routeListeners.delete(listener); \x7d;",
  "  \x7d, []);",
  "  return state[0];",
  "\x7d;",
  "var navigate = function (to) \x7b window.location.hash = to; \x7d;",
  "var Route = function (props) \x7b",
  "  var route = useRoute();",
  "  if (!__matchRoute(props.path, route)) \x7b return null; \x7d",
  "  if (props.element !== undefined) \x7b return props.element; \x7d",
  "  if (props.component) \x7b return React.createElement(props.component); \x7d",
  "  return props.children === undefined ? null : props.children;",
  "\x7d;",
  "var Link = function (props) \x7b",
  "  var to = props.to || \"/\";",
  "  var rest = Object.assign(\x7b\x7d, props);",
  "  delete rest.to;",
  "  return React.createElement(\"a\", Object.assign(rest, \x7b",
  "    href: \"#\" + to,",
  "    onClick: function (event) \x7b",
  "      if (props.onClick) \x7b props.onClick(event); \x7d",
  "      if (event.defaultPrevented) \x7b return; \x7d",
  "      event.preventDefault();",
  "      navigate(to);",
  "    \x7d",
  "  \x7d), props.children);",
  "\x7d;",
  "var Switch = function (props) \x7b",
  "  var route = useRoute();",
  "  var found = null;",
  "  React.Children.forEach(props.children, function (child) \x7b",
  "    if (found === null && React.isValidElement(child) && " ++
      "__matchRoute(child.props.path, route)) \x7b",
  "      found = child;",
  "    \x7d",
  "  \x7d);",
  "  return found;",
  "\x7d;",
  "var Routes = Switch;",
  "var NavLink = Link;",
  "var BrowserRouter = function (props) \x7b return props.children === undefined ? null " ++
      ": props.children; \x7d;",
  "var HashRouter = BrowserRouter;",
  "var useNavigate = function () \x7b return navigate; \x7d;",
  "var useLocation = function () \x7b return \x7b pathname: useRoute() \x7d; \x7d;"]

/-- The registration of the compiler preset for typed components. -/
def typedPreset : Text := .ofStrings [
  "Babel.registerPreset(\"tsx\", \x7b",
  "  presets: [[Babel.availablePresets[\"typescript\"], \x7b allExtensions: true, isTSX: " ++
      "true \x7d]]",
  "\x7d);"]

end SitePreview.Document
