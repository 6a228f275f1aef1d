/-!
Dates and date patterns in the embedded program.
-/

namespace ReportCompiler

namespace Program

def dates : List String :=
  ["  // Dates",
    "",
    "  function dateParts(value) \x7b",
    "    if (value == null || typeof value === 'boolean') return null;",
    "    if (typeof value === 'number') \x7b",
    "      var moment = new Date(value);",
    "      if (isNaN(moment.getTime())) return null;",
    "      return \x7b",
    "        year: moment.getUTCFullYear(), month: moment.getUTCMonth() + 1, day: moment.getUTCDate(),",
    "        hour: moment.getUTCHours(), minute: moment.getUTCMinutes(), second: moment.getUTCSeconds()",
    "      \x7d;",
    "    \x7d",
    "    var match = ISO_DATE.exec(String(value).trim());",
    "    if (!match) return null;",
    "    var parts = \x7b",
    "      year: Number(match[1]), month: Number(match[2]), day: Number(match[3]),",
    "      hour: Number(match[4] || 0), minute: Number(match[5] || 0), second: Number(match[6] || 0)",
    "    \x7d;",
    "    var check = new Date(Date.UTC(parts.year, parts.month - 1, parts.day));",
    "    if (parts.month < 1 || parts.month > 12 || check.getUTCDate() !== parts.day ||",
    "        parts.hour > 23 || parts.minute > 59 || parts.second > 59) \x7b",
    "      return null;",
    "    \x7d",
    "    return parts;",
    "  \x7d",
    "",
    "  function localDateParts(moment) \x7b",
    "    return \x7b",
    "      year: moment.getFullYear(), month: moment.getMonth() + 1, day: moment.getDate(),",
    "      hour: moment.getHours(), minute: moment.getMinutes(), second: moment.getSeconds()",
    "    \x7d;",
    "  \x7d",
    "",
    "  function pad(value, width) \x7b",
    "    var text = String(value);",
    "    while (text.length < width) text = '0' + text;",
    "    return text;",
    "  \x7d",
    "",
    "  function formatDate(parts, pattern) \x7b",
    "    var weekday = new Date(Date.UTC(parts.year, parts.month - 1, parts.day)).getUTCDay();",
    "    var values = \x7b",
    "      yyyy: pad(parts.year, 4),",
    "      MMMM: MONTH_NAMES[parts.month - 1],",
    "      MMM: MONTH_NAMES[parts.month - 1].slice(0, 3),",
    "      MM: pad(parts.month, 2),",
    "      dddd: DAY_NAMES[weekday],",
    "      ddd: DAY_NAMES[weekday].slice(0, 3),",
    "      dd: pad(parts.day, 2),",
    "      HH: pad(parts.hour, 2),",
    "      mm: pad(parts.minute, 2),",
    "      ss: pad(parts.second, 2)",
    "    \x7d;",
    "    return pattern.replace(new RegExp(DATE_TOKEN_PATTERN, 'g'), function (token) \x7b return values[token]; \x7d);",
    "  \x7d",
    "",
    "  function resolveDateFormat(formatKey, customFormat) \x7b",
    "    if (!formatKey) return DATE_FORMATS['date-long'];",
    "    if (formatKey === 'custom') return customFormat || DATE_FORMATS.iso;",
    "    return Object.prototype.hasOwnProperty.call(DATE_FORMATS, formatKey) ? DATE_FORMATS[formatKey] : formatKey;",
    "  \x7d",
    ""]

end Program

end ReportCompiler
