/-!
Updates of the widgets of a document by the embedded program.
-/

namespace ReportCompiler

namespace Program

def widgets : List String :=
  ["  // Binders",
    "",
    "  function normalizeStatus(value) \x7b",
    "    var status = toDisplayString(value).trim().toLowerCase();",
    "    if (Object.prototype.hasOwnProperty.call(STATUS_STYLES, status)) return status;",
    "    return status === 'true' || status === '1' || status === 'yes' ? 'pass' : 'neutral';",
    "  \x7d",
    "",
    "  function statusLabel(status, props) \x7b",
    "    if (props.label) return toDisplayString(props.label);",
    "    var labelProp = \x7b pass: 'passLabel', fail: 'failLabel', warning: 'warningLabel' \x7d[status];",
    "    if (labelProp && props[labelProp]) return toDisplayString(props[labelProp]);",
    "    return STATUS_STYLES[status].label;",
    "  \x7d",
    "",
    "  function normalizeColumns(columns, rows) \x7b",
    "    if (typeof columns === 'string') \x7b",
    "      columns = columns.split(',').map(function (part) \x7b return part.trim(); \x7d).filter(Boolean);",
    "    \x7d",
    "    var normalized = [];",
    "    (columns || []).forEach(function (column) \x7b",
    "      var key, label;",
    "      if (isObject(column)) \x7b",
    "        key = toDisplayString(column.key || column.label);",
    "        label = toDisplayString(column.label || key);",
    "      \x7d else \x7b",
    "        key = label = toDisplayString(column);",
    "      \x7d",
    "      if (key) normalized.push(\x7b key: key, label: label \x7d);",
    "    \x7d);",
    "    if (rows && rows.length) \x7b",
    "      var first = rows[0];",
    "      if (isObject(first) && !normalized.some(function (column) \x7b",
    "        return Object.prototype.hasOwnProperty.call(first, column.key);",
    "      \x7d)) \x7b",
    "        normalized = Object.keys(first).map(function (key) \x7b return \x7b key: key, label: key \x7d; \x7d);",
    "      \x7d else if (Array.isArray(first) && !normalized.length) \x7b",
    "        normalized = first.map(function (cell, index) \x7b",
    "          return \x7b key: String(index), label: 'Column ' + (index + 1) \x7d;",
    "        \x7d);",
    "      \x7d",
    "    \x7d",
    "    return normalized;",
    "  \x7d",
    "",
    "  function cellValue(row, column, index) \x7b",
    "    if (Array.isArray(row)) return index < row.length ? toDisplayString(row[index]) : '';",
    "    if (isObject(row)) return toDisplayString(row[column.key]);",
    "    return index === 0 ? toDisplayString(row) : '';",
    "  \x7d",
    "",
    "  function bindText(el, props, data) \x7b",
    "    if (bindingOf(props)) \x7b",
    "      var value = resolvePath(bindingOf(props), data);",
    "      if (value != null) el.textContent = toDisplayString(value);",
    "      return;",
    "    \x7d",
    "    if (hasBinding(props.text)) el.textContent = interpolate(props.text, data);",
    "  \x7d",
    "",
    "  function bindTable(el, props, data) \x7b",
    "    var rows = resolvePath(bindingOf(props), data);",
    "    if (!Array.isArray(rows)) \x7b",
    "      if (rows != null) log('warn', 'Table binding did not resolve to an array: ' + bindingOf(props));",
    "      return;",
    "    \x7d",
    "    var columns = normalizeColumns(props.columns, rows);",
    "    var border = 'border: 1px solid ' + escapeHtml(props.borderColor) + '; padding: 8px;';",
    "    var html = '<table class=\"report-table\" style=\"width: 100%; border-collapse: collapse; font-size: 14px;\">' +",
    "      '<thead><tr style=\"background: ' + escapeHtml(props.headerColor) + ';\">';",
    "    columns.forEach(function (column) \x7b",
    "      html += '<th style=\"' + border + ' text-align: left; color: #fff;\">' + escapeHtml(column.label) + '</th>';",
    "    \x7d);",
    "    html += '</tr></thead><tbody>';",
    "    rows.forEach(function (row, rowIndex) \x7b",
    "      var background = rowIndex % 2 === 0 ? escapeHtml(props.rowColor) : '#f5f5f5';",
    "      html += '<tr style=\"background: ' + background + ';\">';",
    "      columns.forEach(function (column, index) \x7b",
    "        html += '<td style=\"' + border + ' color: #333;\">' + escapeHtml(cellValue(row, column, index)) + '</td>';",
    "      \x7d);",
    "      html += '</tr>';",
    "    \x7d);",
    "    el.innerHTML = html + '</tbody></table>';",
    "  \x7d",
    "",
    "  function bindBulletList(el, props, data) \x7b",
    "    var items = resolvePath(bindingOf(props), data);",
    "    if (items == null) return;",
    "    var values = Array.isArray(items) ? items.map(toDisplayString) : toDisplayString(items).split('\\n');",
    "    var list = el.querySelector('.report-list');",
    "    if (!list) return;",
    "    while (list.firstChild) list.removeChild(list.firstChild);",
    "    values.filter(function (value) \x7b return value.trim(); \x7d).forEach(function (value) \x7b",
    "      var item = document.createElement('li');",
    "      item.style.marginBottom = '4px';",
    "      item.textContent = value;",
    "      list.appendChild(item);",
    "    \x7d);",
    "  \x7d",
    "",
    "  function bindIndicator(el, props, data) \x7b",
    "    var value = resolvePath(bindingOf(props), data);",
    "    if (value == null) return;",
    "    var status = normalizeStatus(value);",
    "    var palette = STATUS_STYLES[status];",
    "    el.setAttribute('data-status', status);",
    "    var badge = el.querySelector('.indicator-badge');",
    "    if (badge) \x7b",
    "      badge.style.borderColor = palette.borderColor;",
    "      badge.style.background = palette.bgColor;",
    "    \x7d",
    "    var icon = el.querySelector('.indicator-icon');",
    "    if (icon) \x7b",
    "      icon.style.color = palette.textColor;",
    "      icon.innerHTML = palette.icon;",
    "    \x7d",
    "    var label = el.querySelector('.indicator-label');",
    "    if (label) \x7b",
    "      label.style.color = palette.textColor;",
    "      label.textContent = statusLabel(status, props);",
    "    \x7d",
    "  \x7d",
    "",
    "  function numericRange(props) \x7b",
    "    var min = coerceNumber(props.min) || 0;",
    "    var max = coerceNumber(props.max);",
    "    return \x7b min: min, max: max == null ? 100 : max \x7d;",
    "  \x7d",
    "",
    "  function bindGauge(el, props, data) \x7b",
    "    var value = coerceNumber(resolvePath(bindingOf(props), data));",
    "    if (value == null) return;",
    "    var range = numericRange(props);",
    "    var percentage = clampPercentage(value, range.min, range.max);",
    "    var arcLength = parseFloat(el.getAttribute('data-arc-length'));",
    "    var circumference = parseFloat(el.getAttribute('data-circumference'));",
    "    if (isNaN(arcLength) || isNaN(circumference)) \x7b",
    "      var size = Math.max(Math.min(el.offsetWidth, el.offsetHeight) - 20, 0);",
    "      circumference = 2 * Math.PI * Math.max(size / 2 - GAUGE_STROKE_WIDTH, 0);",
    "      arcLength = circumference * GAUGE_ARC_FRACTION;",
    "    \x7d",
    "    el.setAttribute('data-value', String(value));",
    "    var arc = el.querySelector('.gauge-value-arc');",
    "    if (arc) arc.setAttribute('stroke-dasharray', (arcLength * percentage / 100) + ' ' + circumference);",
    "    var display = el.querySelector('.gauge-value');",
    "    if (display) display.textContent = toFixed(value, 0) + toDisplayString(props.unit);",
    "  \x7d",
    "",
    "  function bindProgressBar(el, props, data) \x7b",
    "    var value = coerceNumber(resolvePath(bindingOf(props), data));",
    "    if (value == null) return;",
    "    var range = numericRange(props);",
    "    var percentage = clampPercentage(value, range.min, range.max);",
    "    el.setAttribute('data-value', String(value));",
    "    var fill = el.querySelector('.progress-fill');",
    "    if (fill) fill.style.width = percentage + '%';",
    "    var display = el.querySelector('.progress-value');",
    "    if (display) display.textContent = toFixed(percentage, 0) + '%';",
    "  \x7d",
    "",
    "  function bindDateTime(el, props, data) \x7b",
    "    var value = resolvePath(bindingOf(props), data);",
    "    if (value == null) return;",
    "    var parts = dateParts(value);",
    "    var pattern = resolveDateFormat(props.format, props.customFormat);",
    "    el.textContent = parts ? formatDate(parts, pattern) : toDisplayString(value);",
    "  \x7d",
    "",
    "  var BINDERS = \x7b",
    "    text: bindText,",
    "    table: bindTable,",
    "    bulletlist: bindBulletList,",
    "    indicator: bindIndicator,",
    "    gauge: bindGauge,",
    "    progressbar: bindProgressBar,",
    "    datetime: bindDateTime",
    "  \x7d;",
    "",
    "  function applyVisibility(el, props, data) \x7b",
    "    if (!props.visibilityCondition || evaluateCondition(props.visibilityCondition, data)) \x7b",
    "      el.removeAttribute('data-condition-hidden');",
    "      return true;",
    "    \x7d",
    "    el.style.display = 'none';",
    "    return false;",
    "  \x7d",
    "",
    "  function applyBindings(components, data) \x7b",
    "    log('info', 'Applying bindings to ' + components.length + ' components');",
    "    components.forEach(function (component) \x7b",
    "      var el = document.getElementById(component.id);",
    "      if (!el) return;",
    "      var props = component.props || \x7b\x7d;",
    "      try \x7b",
    "        if (!applyVisibility(el, props, data)) return;",
    "        var binder = BINDERS[component.type];",
    "        if (binder && (bindingOf(props) || hasBinding(props.text))) binder(el, props, data);",
    "      \x7d catch (e) \x7b",
    "        log('error', 'Binding failed for ' + component.id, e);",
    "      \x7d",
    "    \x7d);",
    "  \x7d",
    ""]

end Program

end ReportCompiler
