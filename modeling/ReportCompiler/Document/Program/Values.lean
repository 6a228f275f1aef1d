/-!
Constants and values: text, numbers and percentages as the embedded program sees them.
-/

namespace ReportCompiler

namespace Program

def values : List String :=
  ["  var LOG_PREFIX = '[ReportRuntime]';",
    "  var BINDING_PATTERN = /\\\x7b\\\x7b([^\x7d]+)\\\x7d\\\x7d/g;",
    "  var NUMBER_PREFIX = /^\\s*[-+]?(\\d+\\.?\\d*|\\.\\d+)([eE][-+]?\\d+)?/;",
    "  var ISO_DATE = /^(\\d\x7b4\x7d)-(\\d\x7b2\x7d)-(\\d\x7b2\x7d)(?:[T ](\\d\x7b2\x7d):(\\d\x7b2\x7d)(?::(\\d\x7b2\x7d)(?:\\.\\d+)?)?)?(?:Z|[+-]\\d\x7b2\x7d:?\\d\x7b2\x7d)?$/;",
    "  var CONDITION_TOKEN = /^(?:(\\s+)|(===|!==|==|!=|>=|<=|&&|\\|\\||[<>!()])|('(?:[^'\\\\]|\\\\.)*'|\"(?:[^\"\\\\]|\\\\.)*\")|(-?(?:\\d+\\.?\\d*|\\.\\d+))|([A-Za-z_$][\\w$]*(?:\\??\\.[\\w$]+)*))/;",
    "  var COMPARISON_OPERATORS = ['===', '!==', '==', '!=', '>=', '<=', '>', '<'];",
    "  var KEYWORDS = \x7b 'true': true, 'false': false, 'null': null, 'undefined': null \x7d;",
    "",
    "  function log(level, message, detail) \x7b",
    "    var method = console[level] || console.log;",
    "    if (detail === undefined) \x7b",
    "      method.call(console, LOG_PREFIX + ' ' + message);",
    "    \x7d else \x7b",
    "      method.call(console, LOG_PREFIX + ' ' + message, detail);",
    "    \x7d",
    "  \x7d",
    "",
    "  function deepFreeze(value) \x7b",
    "    if (value && typeof value === 'object' && !Object.isFrozen(value)) \x7b",
    "      Object.freeze(value);",
    "      Object.keys(value).forEach(function (key) \x7b deepFreeze(value[key]); \x7d);",
    "    \x7d",
    "    return value;",
    "  \x7d",
    "",
    "  function clone(value) \x7b",
    "    return value == null ? value : JSON.parse(JSON.stringify(value));",
    "  \x7d",
    "",
    "  // Values",
    "",
    "  function isObject(value) \x7b",
    "    return value !== null && typeof value === 'object' && !Array.isArray(value);",
    "  \x7d",
    "",
    "  function toDisplayString(value) \x7b",
    "    if (value == null) return '';",
    "    if (typeof value === 'string') return value;",
    "    if (typeof value === 'object') return JSON.stringify(value);",
    "    return String(value);",
    "  \x7d",
    "",
    "  function escapeHtml(value) \x7b",
    "    return toDisplayString(value)",
    "      .replace(/&/g, '&amp;')",
    "      .replace(/</g, '&lt;')",
    "      .replace(/>/g, '&gt;')",
    "      .replace(/\"/g, '&quot;')",
    "      .replace(/'/g, '&#039;');",
    "  \x7d",
    "",
    "  function coerceNumber(value) \x7b",
    "    if (value == null || typeof value === 'boolean') return null;",
    "    if (typeof value === 'number') return isNaN(value) ? null : value;",
    "    if (typeof value === 'string') \x7b",
    "      var match = NUMBER_PREFIX.exec(value);",
    "      return match ? parseFloat(match[0]) : null;",
    "    \x7d",
    "    return null;",
    "  \x7d",
    "",
    "  function toFixed(value, digits) \x7b",
    "    var text = Number(value).toFixed(digits);",
    "    return /^-0(\\.0*)?$/.test(text) ? text.slice(1) : text;",
    "  \x7d",
    "",
    "  function clampPercentage(value, min, max) \x7b",
    "    if (max === min) return 0;",
    "    return Math.min(100, Math.max(0, ((value - min) / (max - min)) * 100));",
    "  \x7d",
    ""]

end Program

end ReportCompiler
