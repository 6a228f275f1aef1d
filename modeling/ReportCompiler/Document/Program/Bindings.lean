/-!
Paths and markers in the embedded program.
-/

namespace ReportCompiler

namespace Program

def bindings : List String :=
  ["  // Bindings",
    "",
    "  function normalizePath(path) \x7b",
    "    path = String(path).trim();",
    "    return path.indexOf('data.') === 0 ? path.slice(5) : path;",
    "  \x7d",
    "",
    "  function resolvePath(path, data) \x7b",
    "    if (!path || data == null) return null;",
    "    var parts = normalizePath(path).split('.');",
    "    var current = data;",
    "    for (var i = 0; i < parts.length; i++) \x7b",
    "      var part = parts[i];",
    "      if (current == null) return null;",
    "      if (Array.isArray(current)) \x7b",
    "        if (part === 'length') \x7b",
    "          current = current.length;",
    "        \x7d else if (/^\\d+$/.test(part) && Number(part) < current.length) \x7b",
    "          current = current[Number(part)];",
    "        \x7d else \x7b",
    "          return null;",
    "        \x7d",
    "      \x7d else if (isObject(current)) \x7b",
    "        current = Object.prototype.hasOwnProperty.call(current, part) ? current[part] : null;",
    "      \x7d else \x7b",
    "        return null;",
    "      \x7d",
    "    \x7d",
    "    return current === undefined ? null : current;",
    "  \x7d",
    "",
    "  function hasBinding(text) \x7b",
    "    return typeof text === 'string' && text.indexOf('\x7b\x7b') !== -1 && text.indexOf('\x7d\x7d') !== -1;",
    "  \x7d",
    "",
    "  function interpolate(text, data) \x7b",
    "    if (!text) return text || '';",
    "    if (data == null) return text;",
    "    return text.replace(BINDING_PATTERN, function (match, path) \x7b",
    "      return toDisplayString(resolvePath(path.trim(), data));",
    "    \x7d);",
    "  \x7d",
    "",
    "  function bindingOf(props) \x7b",
    "    return props && props.binding != null ? String(props.binding).trim() : '';",
    "  \x7d",
    ""]

end Program

end ReportCompiler
