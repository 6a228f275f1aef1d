/-!
Charts drawn by the embedded program.
-/

namespace ReportCompiler

namespace Program

def charts : List String :=
  ["  // Charts",
    "",
    "  function parseDataPoints(value) \x7b",
    "    if (value == null) return [];",
    "    var items = Array.isArray(value) ? value : String(value).split(',');",
    "    var points = [];",
    "    items.forEach(function (item) \x7b",
    "      if (typeof item === 'string' && !item.trim()) return;",
    "      var number = coerceNumber(item);",
    "      if (number != null) points.push(number);",
    "    \x7d);",
    "    return points;",
    "  \x7d",
    "",
    "  function chartSeries(value) \x7b",
    "    if (isObject(value) && Array.isArray(value.data)) \x7b",
    "      return \x7b data: parseDataPoints(value.data), labels: Array.isArray(value.labels) ? value.labels : null \x7d;",
    "    \x7d",
    "    if (!Array.isArray(value) || !value.length) return null;",
    "    if (isObject(value[0])) \x7b",
    "      var labels = Object.prototype.hasOwnProperty.call(value[0], 'label') ?",
    "        value.map(function (item) \x7b return toDisplayString(isObject(item) ? item.label : null); \x7d) : null;",
    "      var points = value.map(function (item) \x7b return isObject(item) ? item.value : item; \x7d);",
    "      return \x7b data: parseDataPoints(points), labels: labels \x7d;",
    "    \x7d",
    "    return \x7b data: parseDataPoints(value), labels: null \x7d;",
    "  \x7d",
    "",
    "  function buildChartData(props, data) \x7b",
    "    var title = props.title || '';",
    "    var labels = clone(props.labels || []);",
    "    var datasets = (props.datasets || []).map(function (dataset) \x7b",
    "      var copy = clone(dataset);",
    "      delete copy.binding;",
    "      delete copy.dataPoints;",
    "      return copy;",
    "    \x7d);",
    "    if (!datasets.length) \x7b",
    "      datasets.push(\x7b label: 'Dataset', data: parseDataPoints(DEFAULT_DATA_POINTS), backgroundColor: CHART_COLORS \x7d);",
    "    \x7d",
    "",
    "    if (data != null) \x7b",
    "      var bindings = props.bindings || \x7b\x7d;",
    "      var boundLabels = null;",
    "      if (hasBinding(title)) title = interpolate(title, data);",
    "      var datasetBindings = bindings.datasets || [];",
    "      if (datasetBindings.length) \x7b",
    "        datasetBindings.forEach(function (entry, index) \x7b",
    "          var series = entry && entry.binding ? chartSeries(resolvePath(entry.binding, data)) : null;",
    "          if (series && datasets[index]) \x7b",
    "            datasets[index].data = series.data;",
    "            boundLabels = series.labels || boundLabels;",
    "          \x7d",
    "        \x7d);",
    "      \x7d else if (bindings.primaryBinding) \x7b",
    "        var series = chartSeries(resolvePath(bindings.primaryBinding, data));",
    "        if (series) \x7b",
    "          datasets[0].data = series.data;",
    "          boundLabels = series.labels;",
    "        \x7d",
    "      \x7d",
    "      if (boundLabels && boundLabels.length) labels = boundLabels.map(toDisplayString);",
    "    \x7d",
    "",
    "    var options = clone(props.options || \x7b\x7d);",
    "    options.plugins = options.plugins || \x7b\x7d;",
    "    options.plugins.title = options.plugins.title || \x7b display: true \x7d;",
    "    options.plugins.title.text = title;",
    "    return \x7b type: props.chartType || 'bar', data: \x7b labels: labels, datasets: datasets \x7d, options: options \x7d;",
    "  \x7d",
    "",
    "  function waitForChartLibrary(timeout) \x7b",
    "    return new Promise(function (resolve) \x7b",
    "      if (typeof Chart !== 'undefined') \x7b",
    "        resolve(true);",
    "        return;",
    "      \x7d",
    "      var settled = false;",
    "      var started = Date.now();",
    "      function finish(ready) \x7b",
    "        if (settled) return;",
    "        settled = true;",
    "        window.removeEventListener('chartjs-loaded', onLoaded);",
    "        resolve(ready);",
    "      \x7d",
    "      function onLoaded() \x7b finish(true); \x7d",
    "      function poll() \x7b",
    "        if (typeof Chart !== 'undefined') return finish(true);",
    "        if (Date.now() - started >= timeout) return finish(false);",
    "        setTimeout(poll, 50);",
    "      \x7d",
    "      window.addEventListener('chartjs-loaded', onLoaded);",
    "      poll();",
    "    \x7d);",
    "  \x7d",
    "",
    "  function renderCharts(config, data) \x7b",
    "    var charts = (config.components || []).filter(function (component) \x7b return component.type === 'chart'; \x7d);",
    "    if (!charts.length) return Promise.resolve();",
    "    var timeout = (config.templateConfig || \x7b\x7d).chartWaitTimeout || 0;",
    "    return waitForChartLibrary(timeout).then(function (ready) \x7b",
    "      if (!ready) \x7b",
    "        log('warn', 'Chart.js not loaded, charts keep their placeholders');",
    "        return;",
    "      \x7d",
    "      charts.forEach(function (component) \x7b",
    "        var el = document.getElementById(component.id);",
    "        if (!el || el.style.display === 'none') return;",
    "        var canvas = document.getElementById(component.id + '-canvas') || el.querySelector('canvas');",
    "        if (!canvas) return;",
    "        try \x7b",
    "          new Chart(canvas.getContext('2d'), buildChartData(component.props || \x7b\x7d, data));",
    "        \x7d catch (e) \x7b",
    "          log('error', 'Error rendering chart ' + component.id, e);",
    "        \x7d",
    "      \x7d);",
    "    \x7d);",
    "  \x7d",
    ""]

end Program

end ReportCompiler
